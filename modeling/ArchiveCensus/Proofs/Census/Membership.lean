import ArchiveCensus.Proofs.Census.FirstRows

/-!
# Proofs/Census/Membership — how often the units are counted that files are part of

A file names a unit that it is part of by a text, or several units in a list.  A census counts every
place in which a unit is named, so it counts the files that name the unit, and those that name it
more than once again.  It counts the files alone exactly where each of them names the unit once at
most.

* `Json.mem_labels_iff` — which units a document names.
* `Census.CountsMembers` — how the count of a unit compares with the number of files that name it.
* `Census.countsMembers_of_addSources` — that is so in every census of documents.
* `Census.not_count_eq_members` — a file that counts twice.
-/

namespace ArchiveCensus

/-! ## The units that a document names -/

namespace Json

/-- A document names a unit: it is the text of the unit, with padding or without, or a list that has
such a text in it. -/
def Names (j : Json) (unit : String) : Prop :=
  unit ≠ "" ∧ ∃ s, Text.trim s = unit ∧ (j = .str s ∨ ∃ items, j = .arr items ∧ .str s ∈ items)

/-- A label that is not empty is that of a text. -/
theorem label_eq_iff {j : Json} {unit : String} (h : unit ≠ "") :
    j.label = unit ↔ ∃ s, j = .str s ∧ Text.trim s = unit := by
  cases j with
  | str s => simp [label]
  | null | bool | num | arr | obj => simp [label, h.symm]

/-- **The labels of a document are the units that it names.** -/
theorem mem_labels_iff {j : Json} {unit : String} : unit ∈ j.labels ↔ j.Names unit := by
  unfold Names
  by_cases hunit : unit = ""
  · exact iff_of_false (fun hmem => ne_empty_of_mem_labels hmem hunit) fun h => h.1 hunit
  rw [and_iff_right hunit]
  cases j with
  | str s =>
    have hmem : unit ∈ (str s).labels ↔ unit = Text.trim s := by
      rw [labels, List.mem_filter, List.mem_singleton]
      exact and_iff_left (by simpa using hunit)
    rw [hmem]
    constructor
    · exact fun h => ⟨s, h.symm, .inl rfl⟩
    · rintro ⟨s', rfl, heq | ⟨items, heq, -⟩⟩
      · exact congrArg Text.trim (str.inj heq).symm
      · cases heq
  | arr items =>
    have hmem : unit ∈ (arr items).labels ↔ ∃ item ∈ items, item.label = unit := by
      rw [labels, List.mem_filter, List.mem_map]
      exact and_iff_left (by simpa using hunit)
    rw [hmem]
    constructor
    · rintro ⟨item, hitem, hlabel⟩
      obtain ⟨s, rfl, htrim⟩ := (label_eq_iff hunit).1 hlabel
      exact ⟨s, htrim, .inr ⟨items, rfl, hitem⟩⟩
    · rintro ⟨s, htrim, heq | ⟨items', heq, hitem⟩⟩
      · cases heq
      · cases heq
        exact ⟨.str s, hitem, htrim⟩
  | null | bool | num | obj => simp [labels]

instance (j : Json) (unit : String) : Decidable (j.Names unit) :=
  decidable_of_iff (unit ∈ j.labels) mem_labels_iff

end Json

namespace IndexedFile

/-- In how many places the document of a file names a unit that the file is part of. -/
def timesNamed (unit : String) (source : Json) : Nat := (source.get "isPartOf").labels.count unit

/-- How many files are part of a unit: those whose documents name it. -/
def members (unit : String) (sources : List Json) : Nat :=
  sources.countP fun source => decide ((source.get "isPartOf").Names unit)

/-- The record of a document has the labels of its units. -/
theorem isPartOf_of_ofSource {source : Json} {r : IndexedFile} (h : ofSource source = .ok r) :
    r.isPartOf = (source.get "isPartOf").labels := by
  obtain ⟨_, -, h⟩ := Outcome.bind_eq_ok_iff.1 h
  rw [← Except.ok.inj h]

/-- **Files are part of a unit no more often than they name it**, and as often exactly where each
names it once at most. -/
theorem members_le_and_eq_iff (unit : String) : ∀ sources : List Json,
    members unit sources ≤ (sources.map (timesNamed unit)).sum ∧
      ((sources.map (timesNamed unit)).sum = members unit sources ↔
        ∀ source ∈ sources, timesNamed unit source ≤ 1)
  | [] => by simp [members]
  | source :: rest => by
    obtain ⟨hle, heq⟩ := members_le_and_eq_iff unit rest
    have hnames : (source.get "isPartOf").Names unit ↔ 0 < timesNamed unit source := by
      rw [← Json.mem_labels_iff, timesNamed, List.count_pos_iff]
    have hone : members unit (source :: rest) =
        members unit rest + if 0 < timesNamed unit source then 1 else 0 := by
      simp only [members, List.countP_cons, hnames, decide_eq_true_eq]
    rw [List.map_cons, List.sum_cons, List.forall_mem_cons, ← heq, hone]
    split <;> omega

end IndexedFile

/-! ## What a census counts -/

/-- A text that was not met has no count. -/
theorem Tally.count_eq_zero {key : String} : ∀ {t : Tally}, key ∉ t.keys → t.count key = 0
  | [], _ => rfl
  | (k, n) :: rest, h => by
    obtain ⟨hk, hrest⟩ := not_or.1 (List.mem_cons.not.1 h)
    rw [count, if_neg (Ne.symm hk), count_eq_zero hrest]

/-- Among texts none of which is empty, every text has the count of its places. -/
theorem Tally.Counts.count_eq {t : Tally} {texts : List String} (h : t.Counts texts)
    (hne : ∀ text ∈ texts, text ≠ "") (key : String) : t.count key = texts.count key := by
  by_cases hkey : key = ""
  · have hnone : key ∉ texts := fun hmem => hne key hmem hkey
    have hkeys : key ∉ t.keys := fun hmem => hnone ((h.mem_keys key).1 hmem).2
    rw [count_eq_zero hkeys, List.count_eq_zero.2 hnone, Int.ofNat_zero]
  · exact h.count key hkey

namespace Census

open IndexedFile (members timesNamed)

/-- What a census says of a unit that files are part of. -/
structure CountsMembers (c : Census) (sources : List Json) (unit : String) : Prop where
  /-- It counts every place in which the unit is named, -/
  count_eq : c.tables.isPartOf.count unit =
    ((sources.map (timesNamed unit)).foldl (· + ·) 0 : Nat)
  /-- which are no fewer than the files that name it, -/
  members_le : (members unit sources : Int) ≤ c.tables.isPartOf.count unit
  /-- and as many exactly where each file names it once at most; -/
  count_eq_members_iff : c.tables.isPartOf.count unit = members unit sources ↔
    ∀ source ∈ sources, timesNamed unit source ≤ 1
  /-- then it counts no more than all files. -/
  count_le_files : (∀ source ∈ sources, timesNamed unit source ≤ 1) →
    c.tables.isPartOf.count unit ≤ c.counters.files
  /-- A report that has a row of the unit has this count in it. -/
  reported : ∀ r, c.report = .ok r → ∀ n, ⟨unit, n⟩ ∈ r.isPartOf →
    n = c.tables.isPartOf.count unit

variable {c : Census} {sources : List Json}

/-- The units of a census are counted among all places in which its documents name one. -/
theorem counts_isPartOf {aipUuid : String} (h : (start aipUuid).addSources sources = .ok c) :
    c.tables.isPartOf.Counts (sources.flatMap fun source => (source.get "isPartOf").labels) := by
  obtain ⟨records, hrecords, hsummary⟩ := exists_summarizes h
  have hunits : records.map IndexedFile.isPartOf =
      sources.map fun source => (source.get "isPartOf").labels :=
    Outcome.map_eq_map_of_mapM (fun _ _ _ => IndexedFile.isPartOf_of_ofSource) hrecords
  have hcounts := hsummary.isPartOf
  rwa [List.flatMap_def, hunits, ← List.flatMap_def] at hcounts

/-- The count of a unit is the number of places in which the documents name it. -/
theorem count_isPartOf {aipUuid : String} (h : (start aipUuid).addSources sources = .ok c)
    (unit : String) :
    c.tables.isPartOf.count unit = ((sources.map (timesNamed unit)).sum : Nat) := by
  have hsum : (sources.flatMap fun source => (source.get "isPartOf").labels).count unit =
      (sources.map (timesNamed unit)).sum := List.count_flatMap
  rw [← hsum]
  refine (counts_isPartOf h).count_eq (fun text hmem => ?_) unit
  obtain ⟨_, -, hmem⟩ := List.mem_flatMap.1 hmem
  exact Json.ne_empty_of_mem_labels hmem

/-- **How often a census counts a unit**: once for each place in which a file names it, so once for
each file that names it exactly where no file names it twice. -/
theorem countsMembers_of_addSources {aipUuid : String}
    (h : (start aipUuid).addSources sources = .ok c) (unit : String) :
    c.CountsMembers sources unit := by
  have hcount := count_isPartOf h unit
  obtain ⟨hle, heq⟩ := IndexedFile.members_le_and_eq_iff unit sources
  have hfiles : c.counters.files = sources.length := by
    rw [files_addSources h]
    exact Nat.zero_add _
  exact
    { count_eq := by rw [hcount, List.sum_eq_foldl]
      members_le := by
        rw [hcount]
        exact_mod_cast hle
      count_eq_members_iff := by
        rw [hcount, ← heq]
        exact Int.ofNat_inj
      count_le_files := fun hone => by
        rw [hcount, heq.2 hone, hfiles]
        exact_mod_cast List.countP_le_length
      reported := fun r hr n hrow => by
        rw [(shows_of_report hr).isPartOf] at hrow
        obtain ⟨hunit, -, hn⟩ :=
          (counts_isPartOf h).mem_iff.1 (Ranking.entry_mem_of_mem_leading hrow)
        exact hn.trans ((counts_isPartOf h).count unit hunit).symm }

/-! ## Documents with units -/

/-- A document of a file that is part of something. -/
def partOf (units : Json) : Json := .obj [("isPartOf", units)]

/-- Two files in one box, and one of them in another box too. -/
def boxes : List Json :=
  [partOf (.str " box-1 "), partOf (.arr [.str "box-2", .int 7, .str "box-1", .str " "])]

/-- Both files count for the box that they name. -/
theorem exists_countsMembers_boxes : ∃ c, (start "aip").addSources boxes = .ok c ∧
    c.CountsMembers boxes "box-1" ∧ c.tables.isPartOf.count "box-1" = 2 ∧
    members "box-1" boxes = 2 := by
  have hcount : ((start "aip").addSources boxes).toOption.map (fun c =>
      c.tables.isPartOf.count "box-1") = some 2 := by decide +kernel
  cases hc : (start "aip").addSources boxes with
  | error d =>
    rw [hc] at hcount
    cases hcount
  | ok c =>
    rw [hc] at hcount
    exact ⟨c, rfl, countsMembers_of_addSources hc "box-1", Option.some.inj hcount,
      by decide +kernel⟩

/-- **A file counts twice** for a unit that it names twice: the unit has more members than there are
files. -/
theorem not_count_eq_members :
    ((start "aip").addSources [partOf (.arr [.str "box-1", .str " box-1"])]).toOption.map (fun c =>
      (c.tables.isPartOf.count "box-1", c.counters.files)) = some (2, 1) ∧
    members "box-1" [partOf (.arr [.str "box-1", .str " box-1"])] = 1 := by
  decide +kernel

end Census

end ArchiveCensus
