import ClientGen.Format.Layout

/-!
# Pages

A layout becomes a page in three steps. First every piece gets the column where it would start if
all stood on one line, and gaps that stand for nothing are left out. Then every box and every gap
gets its reach, which is the width up to the next gap that is not deeper. Last the pieces are
written: a box fits if its reach does.
-/

namespace ClientGen.Format

/-! ## Columns -/

/-- A piece, and where it starts if all stands on one line. -/
structure Placed where
  piece : Piece
  start : Nat

/-- Pieces with their columns, the last one first. -/
structure Draft where
  placed : List Placed
  width : Nat
  /-- Where the open boxes start, the innermost first. -/
  boxes : List Nat

namespace Draft

/-- Adds a piece of a width. -/
def push (d : Draft) (p : Piece) (width : Nat) : Draft :=
  { d with placed := ⟨p, d.width⟩ :: d.placed, width := d.width + width }

/-- Ends a box that is too wide for one line, by a text that fits on none. A gap that was to be left
out stays, if there is room for it. -/
def closeWide (d : Draft) : Draft :=
  let d := match d.placed with
    | ⟨.gap g, n⟩ :: rest => { d with placed := ⟨.gap { g with spare := g.optional }, n⟩ :: rest }
    | _ => d
  (d.push (.text "") endless).push (.closing none) 0

/-- Ends a box. A box that holds a gap alone holds nothing. -/
def close (d : Draft) : Draft :=
  match d.placed with
  | ⟨.gap g, _⟩ :: ⟨.opening _ _, _⟩ :: rest =>
    { d with placed := rest, width := d.width - g.blanks }
  | ⟨.gap g, _⟩ :: rest =>
    if g.optional then
      { d with placed := rest, width := d.width - g.blanks }.push (.closing none) 0
    else d.push (.closing none) 0
  | _ => d.push (.closing none) 0

def add (d : Draft) (p : Piece) : Draft :=
  match p with
  | .text s => d.push p s.utf8ByteSize
  | .gap g => d.push p g.blanks
  | .opening _ _ => { d with boxes := d.width :: d.boxes }.push p 0
  | .outdent => match d.placed with
    | ⟨.gap g, n⟩ :: rest =>
      { d with placed := ⟨.gap { g with indent := g.indent - step }, n⟩ :: rest }
    | _ => d
  | .closing limit =>
    let start := d.boxes.head?.getD 0
    let d := { d with boxes := d.boxes.tail }
    if limit.any (· < d.width - start) then d.closeWide else d.close

def ofLayout (l : Layout) : Draft := l.foldl add ⟨[], 0, []⟩

end Draft

/-! ## Reaches -/

/-- A piece, and the width up to the next gap that is not deeper. -/
structure Measured where
  piece : Piece
  reach : Nat

/-- Measures pieces from the last to the first: `next` is the column of the next gap that is not
deeper, and `outer` holds those of the boxes around. -/
def measure (next : Nat) (outer : List Nat) (done : List Measured) : List Placed → List Measured
  | [] => done
  | ⟨p, start⟩ :: rest => match p with
    | .closing _ => measure next (next :: outer) (⟨p, 0⟩ :: done) rest
    | .opening _ _ =>
      let next := outer.head?.getD next
      measure next outer.tail (⟨p, next - start⟩ :: done) rest
    | .gap _ => measure start outer (⟨p, next - start⟩ :: done) rest
    | _ => measure next outer (⟨p, 0⟩ :: done) rest

/-! ## Lines -/

def lineWidth : Int := 89

/-- How much room a line has at least. -/
def leastRoom : Int := 60

/-- A box that is open: whether it fits, or how deep the lines around it start. -/
inductive Frame
  | fits
  | broken (indent : Int) (stack : Bool)

structure Page where
  text : String
  /-- Blanks that are written before the next text. -/
  pending : Nat
  /-- How much room the line has. -/
  room : Int
  /-- How deep lines start. -/
  indent : Int
  /-- The open boxes, the innermost first. -/
  frames : List Frame

namespace Page

/-- A page without text. -/
def empty : Page := ⟨"", 0, lineWidth, 0, []⟩

/-- Writes a text behind the blanks before it. -/
def write (p : Page) (s : String) : Page :=
  { p with text := p.text ++ String.ofList (List.replicate p.pending ' ') ++ s, pending := 0 }

/-- Whether the line goes on at a gap. -/
def goesOn (p : Page) (g : Gap) (reach : Nat) : Bool :=
  g.closed || match p.frames with
    | .fits :: _ => true
    | .broken _ true :: _ => false
    | .broken _ false :: _ | [] => reach ≤ p.room

/-- Goes on behind a gap. -/
def skip (p : Page) (g : Gap) : Page :=
  { p with
    text := p.text ++ g.between
    pending := p.pending + g.blanks
    room := p.room - g.blanks - g.between.utf8ByteSize }

def endLine (p : Page) (g : Gap) : Page :=
  let p := if g.before.isEmpty then p else p.write g.before
  let indent := p.indent + g.indent
  let p := { p with
    text := p.text ++ "\n"
    pending := indent.toNat
    room := max (lineWidth - indent) leastRoom }
  if g.behind.isEmpty then p
  else { p.write g.behind with room := p.room - g.behind.utf8ByteSize }

def add (p : Page) (m : Measured) : Page :=
  match m.piece with
  | .text s => { p.write s with room := p.room - s.utf8ByteSize }
  | .gap g =>
    if g.spare && p.room < 0 then p
    else if p.goesOn g m.reach then p.skip g
    else p.endLine g
  | .opening indent stack =>
    if p.room < m.reach then
      { p with frames := .broken p.indent stack :: p.frames, indent := p.indent + indent }
    else { p with frames := .fits :: p.frames }
  | .closing _ => match p.frames with
    | .broken indent _ :: rest => { p with frames := rest, indent := indent }
    | frames => { p with frames := frames.tail }
  | .outdent => p

end Page

def Layout.text (l : Layout) : String :=
  let d := Draft.ofLayout l
  ((measure d.width [] [] d.placed).foldl Page.add Page.empty).text

end ClientGen.Format
