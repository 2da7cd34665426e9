import ClientGen.Format.Items
import ClientGen.Format.Page
import ClientGen.Syntax.Grammar

/-!
# The usual written form of source text

Every form has a layout made of those of its parts. A text keeps its meaning and loses its comments;
whoever wrote it, and however it was laid out, its written form is the same.
-/

namespace ClientGen.Format

open Syntax

/-- The layout of a form in a place, going at most so deep. -/
def form : Nat → Place → Tree → Layout
  | 0, _, _ => []
  | depth + 1, place, t =>
    let write := form depth
    match place, t with
    | .base lineStart, t => base write lineStart t
    | _, .literal text | _, .lifetime text | _, .sign text => word text
    | place, .attributed attributes inner => inOrder write attributes ++ write place inner
    | _, .attributeName inside path => attributeForm inside (word path)
    | _, .attributeTokens inside path d tokens =>
      attributeForm inside (word path ++ (attributeToken .text false (.group d tokens)).1)
    | _, .attributeValue inside path value => attributeValue write inside path value
    | _, .tuple parts _ => tuple write parts
    | _, .parenthesized inner => word "(" ++ write .plain inner ++ word ")"
    | _, .marked marks inner => word marks ++ write .plain inner
    | _, .invocation m => macroCall m none false
    | _, .unusual => []
    -- Paths.
    | _, .path base bridge absolute segments => path write base bridge absolute segments
    | _, .segment name => word name
    | _, .segmentWith name colons arguments =>
      word name ++ angleArguments write colons arguments
    | _, .segmentCall name inputs output => segmentCall write name inputs output
    | _, .argumentValue head value => write .plain head ++ word " = " ++ write .plain value
    | _, .argumentBounds head bounds => argumentBounds write head bounds
    -- Types.
    | _, .slice element => word "[" ++ write .plain element ++ word "]"
    | _, .repeated element count =>
      word "[" ++ write .plain element ++ word "; " ++ write .plain count ++ word "]"
    | _, .functionType binder head inputs variadic output =>
      functionType write binder head inputs variadic output
    | _, .functionInput name type => functionInput write name type
    | _, .bounded keyword bounds => boundedType write keyword bounds
    | _, .binder parameters => binder write parameters
    | _, .bound wrapped optional binder path => bound write wrapped optional binder path
    | _, .captures names => word ("use<" ++ ", ".intercalate names ++ ">")
    | _, .lifetimeParameter name bounds => lifetimeParameter name bounds
    | _, .typeParameter name bounds default => typeParameter write name bounds default
    | _, .constantParameter name type default => constantParameter write name type default
    | _, .lifetimePredicate name bounds => lifetimePredicate name bounds
    | _, .typePredicate binder type bounds => typePredicate write binder type bounds
    -- Patterns.
    | _, .binding modes name inner => binding write modes name inner
    | _, .alternatives cases => alternatives write cases
    | _, .typed inner type => write .plain inner ++ word ": " ++ write .plain type
    | _, .slicePattern parts => slicePattern write parts
    | _, .recordPattern path fields rest => recordPattern write path fields rest
    | _, .fieldPattern field inner => fieldPattern write field inner
    | _, .patternTuple parts => patternTuple write parts
    | _, .partsPattern path parts => partsPattern write path parts
    -- Expressions.
    | _, .array elements => array write elements
    | _, .assign place value => assign write place value
    | _, .binary left operator right => binary write left operator (write .plain right)
    | _, .cast value type => binary write value "as" (write .plain type)
    | _, .range start marks stop => range write start marks stop
    | place, .call .. | place, .method .. | place, .field .. | place, .index .. | place, .attempt _
    | place, .await _ => suffixed write place.startsLine t
    | _, .closure binder modes inputs output body => closure write binder modes inputs output body
    | _, .block kind attributes statements => block write kind attributes statements
    | _, .conditional condition body otherwise => conditional write condition body otherwise
    | _, .forever label attributes body => forever write label attributes body
    | _, .whileLoop label condition attributes body =>
      whileLoop write label condition attributes body
    | _, .forLoop label pattern items attributes body =>
      forLoop write label pattern items attributes body
    | _, .choice value attributes arms => choice write value attributes arms
    | _, .arm pattern guard body => arm write pattern guard body
    | _, .matching pattern value => matching write pattern value
    | _, .jump keyword label value => jump write keyword label value
    | _, .record path fields rest => record write path fields rest
    | _, .fieldValue field value => fieldValue write field value
    -- Statements.
    | _, .bind pattern value otherwise => bind write pattern value otherwise
    | _, .run value semicolon => run write value semicolon
    | .statement last, .runMacro m semicolon => runMacro m semicolon last
    | _, .runMacro m semicolon => runMacro m semicolon true
    | _, .nothing => []
    -- Items.
    | _, .constant head name type value => constant write head name type value
    | _, .synonym head name parameters bounds predicates type first =>
      synonym write head name parameters bounds predicates type first
    | _, .function head name parameters inputs variadic output predicates body =>
      function write head name parameters inputs variadic output predicates body
    | _, .productType head name parameters predicates kind fields =>
      productType write head name parameters predicates kind fields
    | _, .fieldItem visibility name type => fieldItem write visibility name type
    | _, .sumType head name parameters predicates variants =>
      sumType write head name parameters predicates variants
    | _, .variant name kind fields discriminant => variant write name kind fields discriminant
    | _, .interface head name parameters bounds predicates attributes items =>
      interface write head name parameters bounds predicates attributes items
    | _, .interfaceSynonym head name parameters bounds predicates =>
      interfaceSynonym write head name parameters bounds predicates
    | _, .implementation head parameters negative role type predicates attributes items =>
      implementation write head parameters negative role type predicates attributes items
    | _, .submodule head name attributes items => submodule write head name attributes items
    | _, .foreignItems head attributes items => foreignItems write head attributes items
    | _, .importing head what => importing write head what
    | _, .importFrom name what => word (name ++ "::") ++ write .plain what
    | _, .importName text => word text
    | _, .importGroup parts => importGroup write parts
    | _, .line text => word text ++ lineEnd
    | _, .macroItem m name => macroCall m name true ++ lineEnd

/-- The usual written form of a text. -/
def text (t : SourceTree) : String :=
  let write := form t.depth
  Layout.text (stack 0 (inOrder write t.attributes ++ inOrder write t.items))

end ClientGen.Format
