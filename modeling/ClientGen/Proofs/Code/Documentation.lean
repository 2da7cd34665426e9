import ClientGen.Proofs.Code.Writing

/-!
# Documentation takes lines of its own

The documentation of an item becomes lines that each start with three slashes, however many lines
its text has and whatever these hold. Code is only ever written beside such lines, never on one. So
a module whose items have other documentation, or none, differs in these lines alone.
-/

namespace ClientGen

/-! ## Lines of a text that are no documentation -/

namespace Text

/-- The text without the blank characters at its two ends. -/
def trim (cs : List Char) : List Char := trimEnd (cs.dropWhile isBlank)

/-- Whether a line is documentation: once trimmed, it starts with three slashes. -/
def isDocLine (line : List Char) : Bool := ['/', '/', '/'].isPrefixOf (trim line)

/-- The lines of a text that are no documentation; a line ends at a line feed. -/
def codeLines (text : List Char) : List (List Char) :=
  (text.splitOn '\n').filter fun line => !isDocLine line

/-- The text without its lines of documentation. -/
def withoutDocs (text : String) : String :=
  String.ofList (['\n'].intercalate (codeLines text.toList))

theorem codeLines_append (line rest : List Char) :
    codeLines (line ++ '\n' :: rest) = codeLines line ++ codeLines rest := by
  rw [codeLines, List.splitOn_append_cons_self, List.filter_append]
  rfl

/-- The lines of several texts that are no documentation. -/
def codeLinesOfAll (texts : List String) : List (List Char) :=
  texts.flatMap fun text => codeLines text.toList

@[simp] theorem codeLinesOfAll_nil : codeLinesOfAll [] = [] := rfl

@[simp] theorem codeLinesOfAll_cons (text : String) (texts : List String) :
    codeLinesOfAll (text :: texts) = codeLines text.toList ++ codeLinesOfAll texts := rfl

@[simp] theorem codeLinesOfAll_append (front back : List String) :
    codeLinesOfAll (front ++ back) = codeLinesOfAll front ++ codeLinesOfAll back :=
  List.flatMap_append

/-- Texts that are ended by a line feed each have no line in common. -/
theorem codeLines_join (texts : List String) :
    codeLines (String.join (texts.map (· ++ "\n"))).toList =
      codeLinesOfAll texts ++ codeLines [] := by
  induction texts with
  | nil => rfl
  | cons text texts ih =>
    have hjoin : (String.join ((text :: texts).map (· ++ "\n"))).toList =
        text.toList ++ '\n' :: (String.join (texts.map (· ++ "\n"))).toList := by
      simp [String.toList_join]
    rw [hjoin, codeLines_append, ih, codeLinesOfAll_cons, List.append_assoc]

/-! ## Lines of documentation -/

theorem mem_of_mem_finishLine {c : Char} {line : List Char} (h : c ∈ finishLine line) :
    c ∈ line := by
  unfold finishLine at h
  split at h
  · exact List.mem_cons_of_mem _ (List.mem_reverse.1 h)
  · exact List.mem_reverse.1 h

/-- No line has a line feed of its own. -/
theorem not_mem_linesFrom {line cs : List Char} (hline : '\n' ∉ line) :
    ∀ l ∈ linesFrom line cs, '\n' ∉ l := by
  induction cs generalizing line with
  | nil =>
    intro l hl
    rw [linesFrom] at hl
    split at hl
    · cases hl
    · rw [List.mem_singleton.1 hl, List.mem_reverse]
      exact hline
  | cons c rest ih =>
    by_cases hc : c = '\n'
    · subst hc
      rw [linesFrom]
      intro l hl
      rcases List.mem_cons.1 hl with rfl | hl
      · exact fun hmem => hline (mem_of_mem_finishLine hmem)
      · exact ih List.not_mem_nil l hl
    · rw [linesFrom]
      · refine ih fun hmem => ?_
        rcases List.mem_cons.1 hmem with heq | hmem
        · exact hc heq.symm
        · exact hline hmem
      · exact hc

theorem not_mem_of_mem_lines {docs line : String} (h : line ∈ lines docs) : '\n' ∉ line.toList := by
  obtain ⟨l, hl, rfl⟩ := List.mem_map.1 h
  rw [String.toList_ofList]
  exact not_mem_linesFrom List.not_mem_nil l hl

theorem mem_of_mem_trimEnd {c : Char} {cs : List Char} (h : c ∈ trimEnd cs) : c ∈ cs :=
  List.mem_reverse.1 ((List.dropWhile_sublist _).mem (List.mem_reverse.1 h))

theorem trimEnd_cons {c : Char} (hc : isBlank c = false) (cs : List Char) :
    trimEnd (c :: cs) = c :: trimEnd cs := by
  rw [trimEnd, List.reverse_cons, List.dropWhile_append]
  split
  · rename_i hempty
    rw [trimEnd, List.isEmpty_iff.1 hempty]
    simp [hc]
  · rw [List.reverse_append]
    rfl

/-- A line of documentation is the three slashes, and what stands behind them has no line feed. -/
theorem exists_docLine {line : String} (hline : '\n' ∉ line.toList) :
    ∃ rest, (Code.docLine "///" line).toList = '/' :: '/' :: '/' :: rest ∧ '\n' ∉ rest := by
  unfold Code.docLine
  split
  · exact ⟨[], rfl, List.not_mem_nil⟩
  · refine ⟨' ' :: trimEnd line.toList, by simp, fun hmem => ?_⟩
    rcases List.mem_cons.1 hmem with heq | hmem
    · cases heq
    · exact hline (mem_of_mem_trimEnd hmem)

/-- A line of documentation is one line, and no code. -/
theorem codeLines_docLine (depth : Nat) {line : String} (hline : '\n' ∉ line.toList) :
    codeLines (Code.indent depth ++ Code.docLine "///" line).toList = [] := by
  obtain ⟨rest, hrest, hnew⟩ := exists_docLine hline
  have hslash : isBlank '/' = false := by decide
  have htext : (Code.indent depth ++ Code.docLine "///" line).toList =
      List.replicate (4 * depth) ' ' ++ '/' :: '/' :: '/' :: rest := by
    rw [String.toList_append, hrest, Code.indent, String.toList_ofList]
  have hmem : '\n' ∉ List.replicate (4 * depth) ' ' ++ '/' :: '/' :: '/' :: rest := by
    simp [List.mem_replicate, hnew]
  have hdocs : isDocLine (List.replicate (4 * depth) ' ' ++ '/' :: '/' :: '/' :: rest) = true := by
    have hdrop : (List.replicate (4 * depth) ' ' ++ '/' :: '/' :: '/' :: rest).dropWhile isBlank =
        '/' :: '/' :: '/' :: rest := by
      rw [List.dropWhile_append_of_pos (by simp [List.mem_replicate, isBlank]),
        List.dropWhile_cons_of_neg (by simp [hslash])]
    rw [isDocLine, trim, hdrop, trimEnd_cons hslash, trimEnd_cons hslash, trimEnd_cons hslash]
    rfl
  rw [htext, codeLines, List.splitOn_eq_singleton hmem, List.filter_cons, hdocs]
  rfl

/-- Lines of documentation are no code, whatever their text. -/
@[simp] theorem codeLinesOfAll_docLines (depth : Nat) (docs : String) :
    codeLinesOfAll (Code.docLines depth docs) = [] := by
  rw [codeLinesOfAll, List.flatMap_eq_nil_iff]
  intro text htext
  obtain ⟨line, hline, rfl⟩ := List.mem_map.1 htext
  exact codeLines_docLine depth (not_mem_of_mem_lines hline)

end Text

/-! ## Code without its documentation -/

namespace Code

mutual

/-- The code without the documentation in it. -/
def undocumented : Code → List Code
  | doc _ => []
  | block header body footer => [block header (undocumentedOfAll body) footer]
  | text s => [text s]
  | blank => [blank]
  | need n => [need n]

/-- Several pieces without the documentation in them. -/
def undocumentedOfAll : List Code → List Code
  | [] => []
  | c :: rest => c.undocumented ++ undocumentedOfAll rest

end

theorem linesOfAll_append (depth : Nat) (front back : List Code) :
    linesOfAll depth (front ++ back) = linesOfAll depth front ++ linesOfAll depth back := by
  induction front with
  | nil => rfl
  | cons c front ih => rw [List.cons_append, linesOfAll, ih, linesOfAll, List.append_assoc]

mutual

/-- What code needs is not in its documentation. -/
theorem needsOfAll_undocumented (c : Code) : needsOfAll c.undocumented = c.needs := by
  cases c with
  | block header body footer =>
    simp [undocumented, needsOfAll, needs, needsOfAll_undocumentedOfAll body]
  | _ => simp [undocumented, needsOfAll, needs]

theorem needsOfAll_undocumentedOfAll (code : List Code) :
    needsOfAll (undocumentedOfAll code) = needsOfAll code := by
  cases code with
  | nil => rfl
  | cons c rest =>
    rw [undocumentedOfAll, needsOfAll_append, needsOfAll_undocumented c,
      needsOfAll_undocumentedOfAll rest, needsOfAll]

end

mutual

/-- The lines of code that are no documentation are those of the code without documentation. -/
theorem codeLinesOfAll_undocumented (depth : Nat) (c : Code) :
    Text.codeLinesOfAll (linesOfAll depth c.undocumented) =
      Text.codeLinesOfAll (linesAt depth c) := by
  cases c with
  | block header body footer =>
    simp [undocumented, linesOfAll, linesAt, codeLinesOfAll_undocumentedOfAll (depth + 1) body]
  | _ => simp [undocumented, linesOfAll, linesAt]

theorem codeLinesOfAll_undocumentedOfAll (depth : Nat) (code : List Code) :
    Text.codeLinesOfAll (linesOfAll depth (undocumentedOfAll code)) =
      Text.codeLinesOfAll (linesOfAll depth code) := by
  cases code with
  | nil => rfl
  | cons c rest =>
    rw [undocumentedOfAll, linesOfAll_append, Text.codeLinesOfAll_append,
      codeLinesOfAll_undocumented depth c, codeLinesOfAll_undocumentedOfAll depth rest, linesOfAll,
      Text.codeLinesOfAll_append]

end

theorem undocumentedOfAll_append (front back : List Code) :
    undocumentedOfAll (front ++ back) = undocumentedOfAll front ++ undocumentedOfAll back := by
  induction front with
  | nil => rfl
  | cons c front ih =>
    rw [List.cons_append, undocumentedOfAll, ih, undocumentedOfAll, List.append_assoc]

theorem undocumentedOfAll_flatMap {α : Type} (f : α → List Code) (l : List α) :
    undocumentedOfAll (l.flatMap f) = l.flatMap fun a => undocumentedOfAll (f a) := by
  induction l with
  | nil => rfl
  | cons a l ih => rw [List.flatMap_cons, undocumentedOfAll_append, ih, List.flatMap_cons]

theorem undocumentedOfAll_separated (pieces : List (List Code)) :
    undocumentedOfAll (separated pieces) = separated (pieces.map undocumentedOfAll) := by
  induction pieces with
  | nil => rfl
  | cons piece pieces ih =>
    cases pieces with
    | nil => simp [separated]
    | cons next pieces =>
      rw [separated, List.intercalate_cons_cons, undocumentedOfAll_append,
        undocumentedOfAll_append, ← separated, ih, List.map_cons, List.map_cons, List.map_cons,
        separated, separated, List.intercalate_cons_cons]
      rfl

/-- Documentation is left out. -/
theorem undocumentedOfAll_docCode (docs : Option String) :
    undocumentedOfAll (docCode docs) = [] := by
  cases docs <;> rfl

end Code

/-! ## Items without their documentation -/

def StructField.undocumented (f : StructField) : StructField := { f with docs := none }

def EnumVariant.undocumented (v : EnumVariant) : EnumVariant := { v with docs := none }

def Method.undocumented (m : Method) : Method := { m with docs := none }

/-- The item without the documentation of a type or an interface, of its fields, variants and
methods. The documentation in an implementation stays. -/
def Item.undocumented : Item → Item
  | .struct _ derives name fields => .struct none derives name (fields.map .undocumented)
  | .enum _ derives name variants => .enum none derives name (variants.map .undocumented)
  | .interface _ name methods => .interface none name (methods.map .undocumented)
  | .impl role type members => .impl role type members
  | .need n => .need n

/-- The module without the documentation of its types and interfaces. -/
def Module.undocumented (t : Module) : Module := { t with items := t.items.map .undocumented }

namespace Code

theorem undocumentedOfAll_structField (f : StructField) :
    undocumentedOfAll f.undocumented.code = undocumentedOfAll f.code := by
  simp only [StructField.code, StructField.undocumented, List.cons_append, undocumentedOfAll,
    undocumentedOfAll_append, undocumentedOfAll_docCode]

theorem undocumentedOfAll_enumVariant (v : EnumVariant) :
    undocumentedOfAll v.undocumented.code = undocumentedOfAll v.code := by
  obtain ⟨docs, name, payload⟩ := v
  cases payload <;>
    simp only [EnumVariant.code, EnumVariant.undocumented, List.cons_append, undocumentedOfAll,
      undocumentedOfAll_append, undocumentedOfAll_docCode]

theorem undocumentedOfAll_method (m : Method) :
    undocumentedOfAll m.undocumented.code = undocumentedOfAll m.code := by
  simp only [Method.code, Method.undocumented, undocumentedOfAll_append,
    undocumentedOfAll_docCode]

/-- Without documentation, the code of an item is that of the item without documentation. -/
theorem undocumentedOfAll_item (i : Item) :
    undocumentedOfAll i.undocumented.code = undocumentedOfAll i.code := by
  cases i with
  | struct docs derives name fields =>
    simp only [Item.undocumented, Item.code, undocumentedOfAll_append, undocumentedOfAll_docCode,
      undocumentedOfAll, undocumented, undocumentedOfAll_flatMap, List.flatMap_map,
      undocumentedOfAll_structField]
  | enum docs derives name variants =>
    simp only [Item.undocumented, Item.code, undocumentedOfAll_append, undocumentedOfAll_docCode,
      undocumentedOfAll, undocumented, undocumentedOfAll_flatMap, List.flatMap_map,
      undocumentedOfAll_enumVariant]
  | interface docs name methods =>
    simp only [Item.undocumented, Item.code, undocumentedOfAll_append, undocumentedOfAll_docCode,
      undocumentedOfAll, undocumented, undocumentedOfAll_separated, List.map_map,
      Function.comp_def, undocumentedOfAll_method]
  | impl role type members => rfl
  | need n => rfl

end Code

/-! ## Modules -/

/-- The finished module without its lines of documentation. -/
def SourceUnit.withoutDocs (u : SourceUnit) : SourceUnit :=
  { u with source := Text.withoutDocs u.source }

theorem Writer.codeLines_source_place (w : Writer) (lines scopes : List String) :
    Text.codeLines (w.place lines scopes).source.toList =
      Text.codeLinesOfAll (w.header ++ w.importLines) ++ Text.codeLinesOfAll lines ++
        Text.codeLines [] := by
  rw [source, Text.codeLines_join, Text.codeLinesOfAll_append]
  rfl

/-- Code that differs in documentation alone is written with the same imports and packages, on the
same lines but for those of documentation. -/
theorem Writer.emit_congr (w : Writer) {code code' : List Code}
    (h : Code.undocumentedOfAll code = Code.undocumentedOfAll code') :
    Text.withoutDocs (w.emit code).source = Text.withoutDocs (w.emit code').source ∧
      (w.emit code).dependencies = (w.emit code').dependencies := by
  have hneeds : Code.needsOfAll code = Code.needsOfAll code' := by
    rw [← Code.needsOfAll_undocumentedOfAll, h, Code.needsOfAll_undocumentedOfAll]
  have hlines : Text.codeLinesOfAll (Code.linesOfAll w.depth code) =
      Text.codeLinesOfAll (Code.linesOfAll w.depth code') := by
    rw [← Code.codeLinesOfAll_undocumentedOfAll, h, Code.codeLinesOfAll_undocumentedOfAll]
  rw [emit_eq, emit_eq, hneeds]
  refine ⟨?_, rfl⟩
  rw [Text.withoutDocs, Text.withoutDocs, codeLines_source_place, codeLines_source_place,
    Text.codeLinesOfAll_append w.lines, Text.codeLinesOfAll_append w.lines, hlines]

/-- A module and what is left of it without documentation differ in lines of documentation alone. -/
theorem Module.withoutDocs_unit_undocumented (t : Module) :
    t.undocumented.unit.withoutDocs = t.unit.withoutDocs := by
  have hcode : Code.undocumentedOfAll
      (t.needs.map Code.need ++ (t.items.map Item.undocumented).flatMap Item.code) =
        Code.undocumentedOfAll (t.needs.map Code.need ++ t.items.flatMap Item.code) := by
    simp only [Code.undocumentedOfAll_append, List.flatMap_map, Code.undocumentedOfAll_flatMap,
      Code.undocumentedOfAll_item]
  obtain ⟨hsource, hdependencies⟩ : Text.withoutDocs t.undocumented.writer.source =
      Text.withoutDocs t.writer.source ∧
      t.undocumented.writer.dependencies = t.writer.dependencies :=
    ((Writer.new t.ns).moduleDoc t.docs).emit_congr hcode
  simp only [unit, SourceUnit.withoutDocs, hsource, hdependencies]
  rfl

end ClientGen
