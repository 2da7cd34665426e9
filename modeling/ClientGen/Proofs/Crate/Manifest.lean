import ClientGen.Crate.Manifest
import ClientGen.Proofs.Order.Lexicographic

/-!
# What a manifest says of each package

A manifest has one entry for each package that something depends on. The entry takes its repository
or version from the least of the dependencies on the package, and lists the features of all of them.
Entries that only have a version are lines of the section for the dependencies, and the others are
sections of their own behind it; each of these two kinds stands in the order of names. The entries
as a whole do not.
-/

namespace ClientGen

namespace Manifest

/-! ## Entries -/

/-- What a manifest says of a package: where to take it from, which is the repository of one
dependency or else its version, and features. -/
structure Entry where
  first : Dependency
  features : List String

namespace Entry

def name (e : Entry) : String := e.first.name

/-- The entry has nothing but a version. -/
def IsPlain (e : Entry) : Prop := e.first.git = none ∧ e.features = []

/-- The lines of the entry: a single one if it is plain, and else a section. -/
def lines (e : Entry) : List String :=
  let head := s!"[dependencies.{Text.Toml.key e.name}]"
  match e.first.git, e.features with
  | none, [] => [s!"{Text.Toml.key e.name} = {Text.Toml.string e.first.version}"]
  | none, f :: fs => [head, s!"features = {Text.Toml.stringList (f :: fs)}",
      s!"version = {Text.Toml.string e.first.version}"]
  | some git, [] => [head, s!"git = {Text.Toml.string git}"]
  | some git, f :: fs => [head, s!"features = {Text.Toml.stringList (f :: fs)}",
      s!"git = {Text.Toml.string git}"]

/-- The entry is the one that some dependencies have for its package: the source is that of the
least of them for the package, and the features are those of all of these, in ascending order. -/
structure Sums (e : Entry) (dependencies : List Dependency) : Prop where
  mem : e.first ∈ dependencies
  least : ∀ d ∈ dependencies, d.name = e.name → d = e.first ∨ e.first < d
  features : ∀ f, f ∈ e.features ↔ ∃ d ∈ dependencies, d.name = e.name ∧ f ∈ d.features
  ascending : e.features.Pairwise fun a b => ¬ b < a

end Entry

/-- There is one entry for each package of the dependencies and no other. -/
structure Covers (entries : List Entry) (dependencies : List Dependency) : Prop where
  nodup : (entries.map Entry.name).Nodup
  names : ∀ name, name ∈ entries.map Entry.name ↔ ∃ d ∈ dependencies, d.name = name
  sums : ∀ e ∈ entries, e.Sums dependencies

/-- The entries stand in the sections one behind the other, in this order, and nothing else but the
line that opens the section of the plain ones. That line is left out only if all entries are
sections of their own. -/
def Lists (sections : List (List String)) (entries : List Entry) : Prop :=
  sections.flatten = "[dependencies]" :: entries.flatMap Entry.lines ∨
    (sections.flatten = entries.flatMap Entry.lines ∧ entries ≠ [] ∧ ∀ e ∈ entries, ¬ e.IsPlain)

/-- The text of sections, with an empty line between two of them. -/
def textOf (sections : List (List String)) : String :=
  "\n".intercalate (sections.map fun lines => String.join (lines.map (· ++ "\n")))

/-! ## Features -/

variable {dependencies rest : List Dependency} {first d : Dependency} {f : String}

theorem mem_addFeatures {features more : List String} :
    f ∈ addFeatures features more ↔ f ∈ features ∨ f ∈ more := by
  unfold addFeatures
  induction more generalizing features with
  | nil => simp
  | cons g more ih =>
    rw [List.foldl_cons, ih]
    split
    · rename_i hg
      have hg := List.contains_iff_mem.1 hg
      grind
    · simp [or_assoc]

theorem mem_features_mergeFeatures :
    f ∈ (mergeFeatures first rest).features ↔ ∃ d ∈ first :: rest, f ∈ d.features := by
  have hfold : ∀ features : List String,
      f ∈ rest.foldl (fun fs d => addFeatures fs d.features) features ↔
        f ∈ features ∨ ∃ d ∈ rest, f ∈ d.features := by
    induction rest with
    | nil => simp
    | cons d rest ih =>
      intro features
      rw [List.foldl_cons, ih, mem_addFeatures]
      simp [or_assoc]
  rw [mergeFeatures, hfold]
  simp

theorem mem_sortedFeatures : f ∈ sortedFeatures d ↔ f ∈ d.features := List.mem_mergeSort

theorem pairwise_sortedFeatures (d : Dependency) :
    (sortedFeatures d).Pairwise fun a b => ¬ b < a := by
  have hsorted : (sortedFeatures d).Pairwise fun a b => (!decide (b < a)) = true := by
    refine List.pairwise_mergeSort (fun a b c hab hbc => ?_) (fun a b => ?_) d.features
    · simp only [Bool.not_eq_true', decide_eq_false_iff_not] at hab hbc ⊢
      exact String.le_trans hab hbc
    · simp only [Bool.or_eq_true, Bool.not_eq_true', decide_eq_false_iff_not]
      exact String.le_total a b
  simpa only [Bool.not_eq_true', decide_eq_false_iff_not] using hsorted

theorem sortedFeatures_eq_nil : sortedFeatures d = [] ↔ d.features = [] := by
  rw [← List.length_eq_zero_iff, sortedFeatures, List.length_mergeSort, List.length_eq_zero_iff]

/-! ## Groups of dependencies -/

/-- The dependencies on each package: the first of them and the others. -/
def groups (dependencies : List Dependency) : List (Dependency × List Dependency) :=
  (dependencies.splitBy fun a b => a.name == b.name).filterMap fun
    | [] => none
    | first :: rest => some (first, rest)

/-- The entry for the dependencies on one package. -/
def entryOf (g : Dependency × List Dependency) : Entry :=
  ⟨g.1, sortedFeatures (mergeFeatures g.1 g.2)⟩

theorem merge_eq (dependencies : List Dependency) :
    merge dependencies = (groups dependencies).map fun g => mergeFeatures g.1 g.2 := by
  rw [merge, groups, List.map_filterMap]
  refine List.filterMap_congr fun group _ => ?_
  cases group <;> rfl

theorem names_groups (h : dependencies.Pairwise (· < ·)) :
    (groups dependencies).map (·.1.name) = SortedSet.keys Dependency.name dependencies := by
  rw [groups, Dependency.isFirstKey_name.splitBy_eq h, List.filterMap_map, List.map_filterMap]
  refine (List.filterMap_congr fun name hname => ?_).trans List.filterMap_some
  obtain ⟨first, rest, hgroup⟩ := List.exists_cons_of_ne_nil (SortedSet.withKey_ne_nil hname)
  have hfirst := (SortedSet.mem_withKey.1 (hgroup ▸ List.mem_cons_self)).2
  simp [hgroup, hfirst]

/-- A group has all dependencies on its package. -/
theorem withKey_of_mem_groups (h : dependencies.Pairwise (· < ·))
    {g : Dependency × List Dependency} (hg : g ∈ groups dependencies) :
    SortedSet.withKey Dependency.name dependencies g.1.name = g.1 :: g.2 := by
  rw [groups, Dependency.isFirstKey_name.splitBy_eq h] at hg
  obtain ⟨group, hgroup, hcons⟩ := List.mem_filterMap.1 hg
  obtain ⟨name, -, rfl⟩ := List.mem_map.1 hgroup
  split at hcons
  · cases hcons
  · rename_i first rest heq
    obtain rfl := Option.some.inj hcons
    have hname := (SortedSet.mem_withKey.1 (heq ▸ List.mem_cons_self)).2
    rw [hname, heq]

theorem sums_entryOf (h : dependencies.Pairwise (· < ·)) {g : Dependency × List Dependency}
    (hg : g ∈ groups dependencies) : (entryOf g).Sums dependencies := by
  have hgroup := withKey_of_mem_groups h hg
  have hmem : ∀ d, d ∈ g.1 :: g.2 ↔ d ∈ dependencies ∧ d.name = g.1.name := fun d =>
    hgroup ▸ SortedSet.mem_withKey
  constructor
  · exact ((hmem g.1).1 List.mem_cons_self).1
  · intro d hd hname
    have hascending : (g.1 :: g.2).Pairwise (· < ·) := hgroup ▸ h.sublist List.filter_sublist
    rcases List.mem_cons.1 ((hmem d).2 ⟨hd, hname⟩) with heq | hrest
    · exact .inl heq
    · exact .inr (List.rel_of_pairwise_cons hascending hrest)
  · intro f
    rw [entryOf, mem_sortedFeatures, mem_features_mergeFeatures]
    simp only [hmem, and_assoc]
    rfl
  · exact pairwise_sortedFeatures _

/-! ## Entries in the sections -/

theorem isPlain_iff : isPlain d = true ↔ Entry.IsPlain ⟨d, sortedFeatures d⟩ := by
  rw [isPlain, Bool.and_eq_true, List.isEmpty_iff, Option.isNone_iff_eq_none, and_comm,
    ← sortedFeatures_eq_nil]
  rfl

theorem lines_of_isPlain (h : isPlain d = true) :
    Entry.lines ⟨d, sortedFeatures d⟩ = [plainLine d] := by
  obtain ⟨hgit, hfeatures⟩ := isPlain_iff.1 h
  rw [Entry.lines, hgit, hfeatures]
  rfl

theorem lines_of_not_isPlain (h : ¬ isPlain d = true) :
    Entry.lines ⟨d, sortedFeatures d⟩ = detailed d := by
  rw [isPlain_iff, Entry.IsPlain] at h
  have hempty := sortedFeatures_eq_nil (d := d)
  rw [Entry.lines, detailed]
  cases hgit : d.git <;> cases hfeatures : sortedFeatures d <;> simp_all [Entry.name]

/-- The lines of an entry do not depend on the features that its first dependency had itself. -/
theorem lines_entryOf (g : Dependency × List Dependency) : (entryOf g).lines =
    Entry.lines ⟨mergeFeatures g.1 g.2, sortedFeatures (mergeFeatures g.1 g.2)⟩ := rfl

/-- The groups of which the entry has nothing but a version. -/
def plainGroups (dependencies : List Dependency) : List (Dependency × List Dependency) :=
  (groups dependencies).filter fun g => isPlain (mergeFeatures g.1 g.2)

/-- The groups of which the entry is a section of its own. -/
def tableGroups (dependencies : List Dependency) : List (Dependency × List Dependency) :=
  (groups dependencies).filter fun g => !isPlain (mergeFeatures g.1 g.2)

theorem isPlain_of_mem_plainGroups {e : Entry} (he : e ∈ (plainGroups dependencies).map entryOf) :
    e.IsPlain := by
  obtain ⟨g, hg, rfl⟩ := List.mem_map.1 he
  exact isPlain_iff.1 (List.mem_filter.1 hg).2

theorem not_isPlain_of_mem_tableGroups {e : Entry}
    (he : e ∈ (tableGroups dependencies).map entryOf) : ¬ e.IsPlain := by
  obtain ⟨g, hg, rfl⟩ := List.mem_map.1 he
  have hplain := (List.mem_filter.1 hg).2
  exact fun h => absurd (isPlain_iff.2 h) (by simpa using hplain)

theorem filter_isPlain_merge (dependencies : List Dependency) : (merge dependencies).filter isPlain =
    (plainGroups dependencies).map fun g => mergeFeatures g.1 g.2 := by
  rw [merge_eq, List.filter_map]
  rfl

theorem filter_not_isPlain_merge (dependencies : List Dependency) :
    (merge dependencies).filter (!isPlain ·) =
      (tableGroups dependencies).map fun g => mergeFeatures g.1 g.2 := by
  rw [merge_eq, List.filter_map]
  rfl

theorem flatMap_plainGroups (dependencies : List Dependency) :
    ((plainGroups dependencies).map entryOf).flatMap Entry.lines =
      ((merge dependencies).filter isPlain).map plainLine := by
  rw [filter_isPlain_merge, List.map_map, List.flatMap_map, List.map_eq_flatMap]
  refine List.flatMap_congr fun g hg => ?_
  rw [lines_entryOf, lines_of_isPlain (List.mem_filter.1 hg).2]
  rfl

theorem flatMap_tableGroups (dependencies : List Dependency) :
    ((tableGroups dependencies).map entryOf).flatMap Entry.lines =
      (((merge dependencies).filter (!isPlain ·)).map detailed).flatten := by
  rw [filter_not_isPlain_merge, List.map_map, List.flatMap_map, ← List.flatMap_def]
  refine List.flatMap_congr fun g hg => ?_
  have hplain := (List.mem_filter.1 hg).2
  rw [lines_entryOf, lines_of_not_isPlain (by simpa using hplain)]
  rfl

/-- First all entries with nothing but a version, then all others. -/
theorem lists_sections (dependencies : List Dependency) : Lists (sections dependencies)
    ((plainGroups dependencies).map entryOf ++ (tableGroups dependencies).map entryOf) := by
  rw [Lists, List.flatMap_append, flatMap_plainGroups, flatMap_tableGroups]
  simp only [sections]
  split
  · rename_i hempty
    rw [Bool.and_eq_true, filter_isPlain_merge, filter_not_isPlain_merge] at hempty
    simp only [List.isEmpty_iff, Bool.not_eq_true', List.isEmpty_eq_false_iff, ne_eq,
      List.map_eq_nil_iff] at hempty
    obtain ⟨hplain, htables⟩ := hempty
    refine .inr ⟨?_, ?_, ?_⟩
    · rw [filter_isPlain_merge, hplain]
      rfl
    · rw [hplain]
      simpa using htables
    · rw [hplain]
      exact fun e he => not_isPlain_of_mem_tableGroups he
  · exact .inl rfl

theorem covers_groups (h : dependencies.Pairwise (· < ·)) :
    Covers ((plainGroups dependencies).map entryOf ++ (tableGroups dependencies).map entryOf)
      dependencies := by
  have hperm : (plainGroups dependencies ++ tableGroups dependencies).Perm (groups dependencies) :=
    List.filter_append_perm _ _
  rw [← List.map_append]
  have hnames : ((plainGroups dependencies ++ tableGroups dependencies).map entryOf |>.map
      Entry.name).Perm (SortedSet.keys Dependency.name dependencies) := by
    rw [List.map_map, ← names_groups h]
    exact hperm.map _
  constructor
  · exact hnames.nodup_iff.2 (List.nodup_dedup _)
  · intro name
    rw [hnames.mem_iff, SortedSet.mem_keys]
  · intro e he
    obtain ⟨g, hg, rfl⟩ := List.mem_map.1 he
    exact sums_entryOf h (hperm.mem_iff.1 hg)

/-- Some of the groups, in their order, have entries in the order of names. -/
theorem pairwise_names_entryOf (h : dependencies.Pairwise (· < ·))
    {gs : List (Dependency × List Dependency)} (hsub : gs.Sublist (groups dependencies)) :
    ((gs.map entryOf).map Entry.name).Pairwise (· < ·) := by
  have hkeys := Dependency.isFirstKey_name.pairwise_keys h
  rw [← names_groups h] at hkeys
  rw [List.map_map]
  exact hkeys.sublist (hsub.map _)

/-- Behind the section for the package, the text of a manifest has exactly one entry for each package
of the dependencies: first those with nothing but a version, in the order of names, and then those
with features or a repository, in the order of names. Each has the source of the least dependency on
the package and the features of all of them, in ascending order. -/
theorem text_lists_entries (crateName version : String) (h : dependencies.Pairwise (· < ·)) :
    ∃ sections plain tables,
      text crateName version dependencies =
        textOf (["# Code generated by stencil-gen. DO NOT EDIT."] :: package crateName version ::
          sections) ∧
      Lists sections (plain ++ tables) ∧ Covers (plain ++ tables) dependencies ∧
      (∀ e ∈ plain, e.IsPlain) ∧ (∀ e ∈ tables, ¬ e.IsPlain) ∧
      (plain.map Entry.name).Pairwise (· < ·) ∧ (tables.map Entry.name).Pairwise (· < ·) :=
  ⟨sections dependencies, (plainGroups dependencies).map entryOf,
    (tableGroups dependencies).map entryOf, rfl, lists_sections dependencies, covers_groups h,
    fun _ => isPlain_of_mem_plainGroups, fun _ => not_isPlain_of_mem_tableGroups,
    pairwise_names_entryOf h List.filter_sublist, pairwise_names_entryOf h List.filter_sublist⟩

/-- Two dependencies on one package, which has features, and one on another package. -/
def mixed : List Dependency :=
  [⟨"a", "1", ["f"], none⟩, ⟨"a", "2", ["e"], some "g"⟩, .ofVersion "b" "1"]

theorem text_lists_entries_mixed : mixed.Pairwise (· < ·) ∧ ∃ sections plain tables,
    text "x" "1.0.0" mixed =
      textOf (["# Code generated by stencil-gen. DO NOT EDIT."] :: package "x" "1.0.0" ::
        sections) ∧
    Lists sections (plain ++ tables) ∧ Covers (plain ++ tables) mixed ∧
    (∀ e ∈ plain, e.IsPlain) ∧ (∀ e ∈ tables, ¬ e.IsPlain) ∧
    (plain.map Entry.name).Pairwise (· < ·) ∧ (tables.map Entry.name).Pairwise (· < ·) :=
  ⟨by decide, text_lists_entries "x" "1.0.0" (by decide)⟩

/-- The line that an entry starts with. -/
theorem Entry.exists_lines_eq_cons (e : Entry) : ∃ line rest, e.lines = line :: rest ∧
    ((∃ version, line = Text.Toml.key e.name ++ " = " ++ version) ∨
      line = "[dependencies." ++ Text.Toml.key e.name ++ "]") := by
  rw [lines]
  cases e.first.git <;> cases e.features <;> simp [toString]

/-- The entries as a whole do not stand in the order of names: the plain entry of `b` stands before
the one of `a`. -/
theorem not_lists_in_name_order : mixed.Pairwise (· < ·) ∧
    ¬ ∃ entries, Lists (sections mixed) entries ∧ Covers entries mixed ∧
      (entries.map Entry.name).Pairwise (· < ·) := by
  refine ⟨by decide, ?_⟩
  rintro ⟨entries, hlists, hcovers, hascending⟩
  have hnames : entries.map Entry.name = ["a", "b"] := by
    refine hascending.eq_of_mem_iff (by decide) fun name => ?_
    rw [hcovers.names]
    simp [mixed, Dependency.ofVersion, eq_comm]
  obtain ⟨e, rest, rfl, hname, -⟩ := List.map_eq_cons_iff.1 hnames
  obtain ⟨line, lines, hlines, hline⟩ := e.exists_lines_eq_cons
  have hkey : Text.Toml.key e.name = "a" := by
    rw [hname]
    decide +kernel
  have htake : (sections mixed).flatten.take 2 = ["[dependencies]", "b = \"1\""] := by
    decide +kernel
  have hfirst : line = "[dependencies]" ∨ line = "b = \"1\"" := by
    rcases hlists with hlists | ⟨hlists, -⟩ <;> rw [hlists, List.flatMap_cons, hlines] at htake
    · exact .inr (List.cons.inj (List.cons.inj htake).2).1
    · exact .inl (List.cons.inj htake).1
  rw [hkey] at hline
  rcases hline with ⟨version, hline⟩ | hline
  · have hletter : line.toList.head? = some 'a' := by
      rw [hline, String.toList_append, String.toList_append]
      rfl
    rcases hfirst with rfl | rfl <;> exact absurd hletter (by decide)
  · rcases hfirst with rfl | rfl <;> exact absurd hline (by decide)

end Manifest

end ClientGen
