import ClientGen.Error
import ClientGen.Naming

/-! What to generate, and how to name it. -/

namespace ClientGen

structure Settings where
  service : ShapeId
  crateName : String
  crateVersion : String
  /-- The protocol, in the place of the one that the service declares. -/
  protocol : Option Protocol
deriving DecidableEq

namespace Settings

/-- The name of the crate for a service: its words, joined by hyphens. -/
def defaultName (service : ShapeId) : String :=
  String.ofList ((Naming.snakeCase service.name).toList.map fun c => if c = '_' then '-' else c)
    ++ "-client"

/-- The settings for a service that say nothing else. -/
def ofService (service : ShapeId) : Settings := ⟨service, defaultName service, "0.1.0", none⟩

def isAsciiLetter (c : Char) : Bool := ('a' ≤ c && c ≤ 'z') || ('A' ≤ c && c ≤ 'Z')

/-- Whether the character may stand in the name of a crate. -/
def isNameChar (c : Char) : Bool :=
  isAsciiLetter c || Naming.isAsciiDigit c || c == '-' || c == '_'

/-- Whether the text can be the name of a crate. -/
def isValidName (name : String) : Bool :=
  name.toList.head?.any isAsciiLetter && name.toList.all isNameChar

/-- Whether the text can be the version of a crate: three numbers. -/
def isValidVersion (version : String) : Bool :=
  let parts := version.toList.splitOn '.'
  parts.length == 3 && parts.all fun p => !p.isEmpty && p.all Naming.isAsciiDigit

/-- Checks the name and the version. -/
def validate (s : Settings) : Except GenerationError Unit :=
  if !isValidName s.crateName then .error (.config (.crateName s.crateName))
  else if !isValidVersion s.crateVersion then .error (.config (.crateVersion s.crateVersion))
  else .ok ()

end Settings

end ClientGen
