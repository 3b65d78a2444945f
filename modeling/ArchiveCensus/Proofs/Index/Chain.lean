import ArchiveCensus.Proofs.Index.Cursor
import ArchiveCensus.Proofs.Index.Listing

/-!
# Proofs/Index/Chain — listings one after another

A caller lists from the start and goes on from each cursor until one is empty.  The calls cut the
shelf into parts, one after another, and list the packages of each part up to the limit.  The cursor
stands after the part, so a package that only comes behind the limit there is in no listing.

* `settles_chain` — the parts make up the shelf.
* `Passes` — a listing passes over a package.
* `lists_iff_not_passes` — a package is listed unless a listing passes over it.
-/

namespace ArchiveCensus

variable {σ : Type}

/-! ## Documents of packages -/

/-- The documents of a shelf are sorted by their package and one more text, and their packages have
names. -/
structure Shelf.Sorted (k : Shelf) : Prop where
  before : k.before = Shelf.pairBefore
  named : ∀ d ∈ k.docs, ∃ aip file, d.sort = [.str aip, .str file] ∧
    d.document.get "AIPUUID" = .str aip ∧ Text.trim aip = aip ∧ aip ≠ ""

/-- A shelf has documents of a package. -/
def Shelf.Has (k : Shelf) (aipUuid : String) : Prop :=
  ∃ d ∈ k.docs, d.document.get "AIPUUID" = .str aipUuid

namespace Shelf.Sorted

open Listing

variable {k : Shelf} (h : k.Sorted) {d : Hit} {aipUuid : String}

include h

/-- The package of a document is the text in it. -/
theorem aipUuid_itemOf_iff (hd : d ∈ k.docs) :
    (itemOf d).aipUuid = aipUuid ↔ d.document.get "AIPUUID" = .str aipUuid := by
  obtain ⟨aip, file, -, haip, htrim, -⟩ := h.named d hd
  have hitem : (itemOf d).aipUuid = aip := by
    rw [itemOf, haip]
    exact htrim
  rw [hitem, haip, Json.str.injEq]

theorem aipUuid_itemOf_ne (hd : d ∈ k.docs) : (itemOf d).aipUuid ≠ "" := by
  obtain ⟨aip, file, -, haip, -, hne⟩ := h.named d hd
  rw [(h.aipUuid_itemOf_iff hd).2 haip]
  exact hne

/-- Packages are in order on the shelf. -/
theorem pairwise_le :
    k.docs.Pairwise fun d e => (itemOf d).aipUuid ≤ (itemOf e).aipUuid := by
  refine k.ordered.imp_of_mem fun {d e} hd he hbefore => ?_
  obtain ⟨a, f, hsort, ha, -⟩ := h.named d hd
  obtain ⟨b, g, hsort', hb, -⟩ := h.named e he
  rw [h.before, hsort, hsort', pairBefore_pair] at hbefore
  rw [(h.aipUuid_itemOf_iff hd).2 ha, (h.aipUuid_itemOf_iff he).2 hb]
  obtain hlt | ⟨rfl, -⟩ := hbefore
  · exact String.not_lt.1 (String.lt_asymm hlt)
  · exact String.le_refl _

/-- The packages of a part of the shelf are gathered in order. -/
theorem ascending_gather {front seg rest : List Hit} (hdocs : k.docs = front ++ (seg ++ rest)) :
    Ascending (gather seg []) := by
  have hseg : seg.Sublist k.docs := by
    rw [hdocs]
    exact (List.sublist_append_left seg rest).trans (List.sublist_append_right front _)
  exact Listing.ascending_gather (h.pairwise_le.sublist hseg) .nil (by simp)

/-- The cursor of a document is read as its sort values. -/
theorem decode_sort (hd : d ∈ k.docs) :
    Cursor.decode (Cursor.encode d.sort) = .ok (some d.sort) := by
  obtain ⟨aip, file, hsort, -⟩ := h.named d hd
  have hexact : ∀ j ∈ d.sort, Json.Exact j := by
    rw [hsort]
    simp only [List.forall_mem_cons]
    exact ⟨.str aip, .str file, by simp⟩
  simpa using Cursor.decode_padded hexact "" "" (by simp) (by simp)

end Shelf.Sorted

/-- A shelf of rows is sorted if their first sort values are the packages in their sources. -/
theorem Memory.sorted {rows : List Row} {hrows : Ordered rows}
    (hnamed : ∀ r ∈ rows, (Json.obj r.source).get "AIPUUID" = .str r.first ∧
      Text.trim r.first = r.first ∧ r.first ≠ "") : (Memory.shelf rows hrows).Sorted where
  before := rfl
  named := by
    rintro d hd
    simp only [Memory.shelf, List.map_map, List.mem_map, Function.comp] at hd
    obtain ⟨r, hr, rfl⟩ := hd
    exact ⟨r.first, r.second, rfl, hnamed r hr⟩

namespace Listing

/-! ## Calls one after another -/

/-- Lists from a cursor and goes on from the next one until it is empty.  There is a guard for each
call, and no more calls than guards. -/
def chain [Responder σ] (c : Client) (w : Wish) (limits : Limits) (timeout : Number) :
    List Guard → String → Call σ (List Listing)
  | [], _ => return []
  | guard :: guards, cursor => do
      let l ← list c { w with cursor } limits guard timeout
      if l.nextCursor.isEmpty then return [l]
      else return l :: (← chain c w limits timeout guards l.nextCursor)

/-- Listings that a shelf is enough for: their index answers them from the shelf, with pages that
are not empty. -/
structure Reads (σ : Type) [Responder σ] (c : Client) (w : Wish) (limits : Limits) (k : Shelf) :
    Prop where
  enabled : c.enabled = true
  sorted : k.Sorted
  answers : ∀ guard timeout, k.Answers σ c w.index (planned c w limits guard timeout).query
    (planned c w limits guard timeout).size
  one_le_overfetch : 1 ≤ limits.listOverfetch
  one_le_maxPages : 1 ≤ limits.listMaxPages

/-- Listings of documents, one after another: each of a part, and the last of the rest. -/
inductive Covers (limit : Int) : List Hit → List Listing → Prop where
  | rest {docs : List Hit} {l : Listing} : IsRest limit docs l → Covers limit docs [l]
  | part {seg rest : List Hit} {last : Hit} {l : Listing} {ls : List Listing} :
      IsPart limit seg last l → Covers limit rest ls → Covers limit (seg ++ rest) (l :: ls)

section

variable [Responder σ] {c : Client} {w : Wish} {limits : Limits} {k : Shelf}

theorem Reads.planned (h : Reads σ c w limits k) {guard : Guard} (hguard : guard.Timed)
    (timeout : Number) (cursor : String) :
    (Listing.planned c { w with cursor } limits guard timeout).Reads σ k where
  enabled := h.enabled
  timed := hguard
  answers := h.answers guard timeout
  one_le_limit := Limits.one_le_clamp _ _ _
  one_le_size := Int.mul_pos (Limits.one_le_clamp w.limit limits.listDefault limits.listMax)
    h.one_le_overfetch

/-- **The parts make up what stands behind the first cursor**, unless a guard stops. -/
theorem settles_chain (h : Reads σ c w limits k) (timeout : Number) :
    ∀ {guards : List Guard} {cursor : String} {front docs : List Hit}
      {position : Option (List Json)},
      (∀ guard ∈ guards, guard.Timed) → docs.length < guards.length → k.docs = front ++ docs →
      Cursor.decode cursor = .ok position → k.after (position.getD []) = docs →
      Call.Settles (fun f => ∃ guard ∈ guards, guard.Stops f)
        (chain c w limits timeout guards cursor : Call σ (List Listing))
        (Covers (Limits.clamp w.limit limits.listDefault limits.listMax) docs)
  | [], _, _, docs, _, _, hcalls, _, _, _ => absurd hcalls (Nat.not_lt_zero _)
  | guard :: guards, cursor, front, docs, position, htimed, hcalls, hdocs, hcursor, hafter => by
      rw [List.forall_mem_cons] at htimed
      have hlist := settles_list (h.planned htimed.1 timeout cursor) h.one_le_maxPages hdocs hcursor
        hafter
      unfold chain
      refine (hlist.mono (fun f hf => ⟨guard, by simp, hf⟩) fun _ => id).bind ?_
      rintro l (hrest | ⟨seg, rest, last, rfl, hpart⟩)
      · rw [hrest.nextCursor]
        exact Call.settles_pure (.rest hrest)
      · have hmem : last ∈ k.docs := by simp [hdocs, List.mem_of_getLast? hpart.getLast?]
        have hdocs' : k.docs = (front ++ seg) ++ rest := by simpa using hdocs
        have hfewer : rest.length < guards.length := by
          have hseg := List.length_pos_of_mem (List.mem_of_getLast? hpart.getLast?)
          rw [List.length_append, List.length_cons] at hcalls
          omega
        have hlater := settles_chain h timeout htimed.2 hfewer hdocs' (h.sorted.decode_sort hmem)
          (k.after_last hdocs hpart.getLast?)
        rw [hpart.nextCursor, if_neg (by simpa using Cursor.encode_ne_empty last.sort)]
        refine (hlater.mono ?_ fun _ => id).bind fun ls hls => ?_
        · rintro f ⟨g, hg, hf⟩
          exact ⟨g, by simp [hg], hf⟩
        · exact Call.settles_pure (.part hpart hls)

end

/-! ## What is listed -/

/-- A listing passes over a package: it comes to the limit before the package, and no document of
the package stands behind the cursor. -/
structure Passes (k : Shelf) (l : Listing) (aipUuid : String) : Prop where
  full : (l.items.length : Int) = l.limit
  later : ∃ last, l.items.getLast? = some last ∧ last.aipUuid < aipUuid
  behind : ∃ position, Cursor.decode l.nextCursor = .ok (some position) ∧
    ∀ d ∈ k.docs, d.document.get "AIPUUID" = .str aipUuid → k.before position d.sort = false

section

variable {limit : Int} {front seg rest : List Hit} {last : Hit} {l : Listing} {k : Shelf}
  {aipUuid : String}

/-- What a part lists has a document in it. -/
theorem IsPart.exists_doc (h : IsPart limit seg last l) (hlists : Lists l.items aipUuid) :
    ∃ d ∈ seg, (itemOf d).aipUuid = aipUuid := by
  obtain ⟨item, hitem, hsame⟩ := hlists
  rw [h.items] at hitem
  exact (lists_gather_nil.1 ⟨item, List.mem_of_mem_take hitem, hsame⟩).2

theorem IsPart.ascending (h : IsPart limit seg last l) (hk : k.Sorted)
    (hdocs : k.docs = front ++ (seg ++ rest)) : Ascending l.items := by
  rw [h.items]
  exact (hk.ascending_gather hdocs).sublist (List.take_sublist ..)

/-- A package whose last document is in a part is listed or passed over there. -/
theorem IsPart.lists_or_passes (h : IsPart limit seg last l) (hk : k.Sorted) (hlimit : 1 ≤ limit)
    (hdocs : k.docs = front ++ (seg ++ rest)) (hdoc : ∃ d ∈ seg, (itemOf d).aipUuid = aipUuid)
    (hrest : ¬ ∃ d ∈ rest, (itemOf d).aipUuid = aipUuid) :
    Lists l.items aipUuid ∨ Passes k l aipUuid := by
  obtain ⟨d, hd, rfl⟩ := hdoc
  have hne := hk.aipUuid_itemOf_ne (d := d) (by simp [hdocs, hd])
  have hlists : Lists (gather seg []) (itemOf d).aipUuid := lists_gather_nil.2 ⟨hne, d, hd, rfl⟩
  obtain hlisted | ⟨hfull, hlater⟩ :=
    lists_take_or (n := limit.toNat) (by omega) (hk.ascending_gather hdocs) hlists
  · exact .inl (by rwa [h.items])
  · have hmem : last ∈ k.docs := by simp [hdocs, List.mem_of_getLast? h.getLast?]
    refine .inr ⟨?_, by rwa [h.items], last.sort, ?_, fun e he haip => ?_⟩
    · rw [h.items, hfull, h.limit_eq]
      omega
    · rw [h.nextCursor]
      exact hk.decode_sort hmem
    · -- a document behind the cursor would be one of the rest
      by_contra hbefore
      have hafter : e ∈ k.after last.sort :=
        (Shelf.mem_after_iff (k.placed last hmem)).2 ⟨he, by simpa using hbefore⟩
      rw [k.after_last hdocs h.getLast?] at hafter
      exact hrest ⟨e, hafter, (hk.aipUuid_itemOf_iff he).2 haip⟩

/-- A package that is passed over has no document in the rest. -/
theorem IsPart.not_exists_rest (h : IsPart limit seg last l) (hk : k.Sorted)
    (hdocs : k.docs = front ++ (seg ++ rest)) (hpasses : Passes k l aipUuid) :
    ¬ ∃ d ∈ rest, (itemOf d).aipUuid = aipUuid := by
  rintro ⟨d, hd, hsame⟩
  have hlast : last ∈ k.docs := by simp [hdocs, List.mem_of_getLast? h.getLast?]
  have hafter : d ∈ k.after last.sort := by rwa [k.after_last hdocs h.getLast?]
  obtain ⟨hmem, hbefore⟩ := (Shelf.mem_after_iff (k.placed last hlast)).1 hafter
  obtain ⟨position, hposition, hbehind⟩ := hpasses.behind
  rw [h.nextCursor, hk.decode_sort hlast] at hposition
  cases hposition
  rw [hbehind d hmem ((hk.aipUuid_itemOf_iff hmem).1 hsame)] at hbefore
  cases hbefore

end

namespace Covers

variable {limit : Int} {docs front : List Hit} {ls : List Listing} {k : Shelf} {l : Listing}
  {aipUuid : String}

theorem getLast? (h : Covers limit docs ls) : ∃ l, ls.getLast? = some l ∧ l.nextCursor = "" := by
  induction h with
  | rest hrest => exact ⟨_, rfl, hrest.nextCursor⟩
  | part _ _ ih =>
    obtain ⟨l, hlast, hnext⟩ := ih
    exact ⟨l, by simp [List.getLast?_cons, hlast], hnext⟩

/-- What is listed has a document. -/
theorem exists_doc (h : Covers limit docs ls) (hl : l ∈ ls) (hlists : Lists l.items aipUuid) :
    ∃ d ∈ docs, (itemOf d).aipUuid = aipUuid := by
  induction h with
  | rest hrest =>
    obtain rfl := List.mem_singleton.1 hl
    rw [hrest.items, lists_gather_nil] at hlists
    exact hlists.2
  | part hpart _ ih =>
    obtain rfl | hl := List.mem_cons.1 hl
    · obtain ⟨d, hd, hsame⟩ := hpart.exists_doc hlists
      exact ⟨d, by simp [hd], hsame⟩
    · obtain ⟨d, hd, hsame⟩ := ih hl
      exact ⟨d, by simp [hd], hsame⟩

/-- **A package that has a document is listed or passed over.** -/
theorem lists_or_passes (h : Covers limit docs ls) (hk : k.Sorted) (hlimit : 1 ≤ limit)
    (hdocs : k.docs = front ++ docs) (hdoc : ∃ d ∈ docs, (itemOf d).aipUuid = aipUuid) :
    ∃ l ∈ ls, Lists l.items aipUuid ∨ Passes k l aipUuid := by
  induction h generalizing front with
  | rest hrest =>
    obtain ⟨d, hd, rfl⟩ := hdoc
    have hne := hk.aipUuid_itemOf_ne (d := d) (by simp [hdocs, hd])
    refine ⟨_, List.mem_singleton_self _, .inl ?_⟩
    rw [hrest.items, lists_gather_nil]
    exact ⟨hne, d, hd, rfl⟩
  | @part seg rest _ l ls hpart _ ih =>
    by_cases hlater : ∃ d ∈ rest, (itemOf d).aipUuid = aipUuid
    · have hdocs' : k.docs = (front ++ seg) ++ rest := by simpa using hdocs
      obtain ⟨l', hl', h⟩ := ih hdocs' hlater
      exact ⟨l', List.mem_cons_of_mem _ hl', h⟩
    · have hseg : ∃ d ∈ seg, (itemOf d).aipUuid = aipUuid := by
        obtain ⟨d, hd, hsame⟩ := hdoc
        obtain hd | hd := List.mem_append.1 hd
        · exact ⟨d, hd, hsame⟩
        · exact absurd ⟨d, hd, hsame⟩ hlater
      exact ⟨l, List.mem_cons_self, hpart.lists_or_passes hk hlimit hdocs hseg hlater⟩

/-- **A package that is passed over is not listed**, neither by the call that passes over it nor
before or after. -/
theorem not_lists (h : Covers limit docs ls) (hk : k.Sorted) (hdocs : k.docs = front ++ docs)
    (hl : l ∈ ls) (hpasses : Passes k l aipUuid) {l' : Listing} (hl' : l' ∈ ls) :
    ¬ Lists l'.items aipUuid := by
  intro hlists
  obtain ⟨item, hitem, hlt⟩ := hpasses.later
  induction h generalizing front with
  | rest hrest =>
    obtain rfl := List.mem_singleton.1 hl
    obtain ⟨position, hposition, -⟩ := hpasses.behind
    rw [hrest.nextCursor] at hposition
    cases hposition
  | @part seg rest last l₀ ls hpart hrest ih =>
    have hdocs' : k.docs = (front ++ seg) ++ rest := by simpa using hdocs
    obtain rfl | hlater := List.mem_cons.1 hl
    · obtain rfl | hlater' := List.mem_cons.1 hl'
      · exact not_lists_of_lt (hpart.ascending hk hdocs) hitem hlt hlists
      · exact hpart.not_exists_rest hk hdocs hpasses (hrest.exists_doc hlater' hlists)
    · obtain rfl | hlater' := List.mem_cons.1 hl'
      · -- what is listed stands in this part, and what is passed over behind it
        obtain ⟨d, hd, hsame⟩ := hrest.exists_doc hlater ⟨item, List.mem_of_getLast? hitem, rfl⟩
        obtain ⟨e, he, hsame'⟩ := hpart.exists_doc hlists
        have hle := hk.pairwise_le
        rw [hdocs', List.pairwise_append] at hle
        have hle := hle.2.2 e (by simp [he]) d hd
        rw [hsame, hsame'] at hle
        exact String.not_le.2 hlt hle
      · exact ih hdocs' hlater hlater'

end Covers

section

variable [Responder σ] {c : Client} {w : Wish} {limits : Limits} {timeout : Number} {k : Shelf}

/-- **A package is listed unless a listing passes over it.**  Listing from the start and going on
from each cursor comes to an end, and of the packages that the index has, those are missing that
come after the limit of a listing and have no document behind its cursor. -/
theorem lists_iff_not_passes (h : Reads σ c w limits k) {guards : List Guard}
    (htimed : ∀ guard ∈ guards, guard.Timed) (hcalls : k.docs.length < guards.length)
    {ch : Channel σ} (hquiet : ∀ cause, ((chain c w limits timeout guards "").run.run ch).1 ≠
      .error (.scanCancelled cause)) :
    ∃ ls, ((chain c w limits timeout guards "").run.run ch).1 = .ok ls ∧
      (∃ l, ls.getLast? = some l ∧ l.nextCursor = "") ∧
      ∀ aipUuid, k.Has aipUuid →
        ((∃ l ∈ ls, Lists l.items aipUuid) ↔ ¬ ∃ l ∈ ls, Passes k l aipUuid) := by
  obtain ⟨ls, hrun, hcovers⟩ | ⟨f, hrun, guard, -, _, _, cause, -, rfl⟩ :=
    settles_chain h timeout htimed hcalls (List.nil_append _).symm Cursor.decode_empty k.after_nil
      ch
  · refine ⟨ls, hrun, hcovers.getLast?, fun aipUuid hhas => ?_⟩
    constructor
    · rintro ⟨l', hl', hlists⟩ ⟨l, hl, hpasses⟩
      exact hcovers.not_lists h.sorted (List.nil_append _).symm hl hpasses hl' hlists
    · intro hpasses
      obtain ⟨d, hd, haip⟩ := hhas
      have hdoc : ∃ d ∈ k.docs, (itemOf d).aipUuid = aipUuid :=
        ⟨d, hd, (h.sorted.aipUuid_itemOf_iff hd).2 haip⟩
      obtain ⟨l, hl, hlists | hpasses'⟩ := hcovers.lists_or_passes h.sorted
        (Limits.one_le_clamp _ _ _) (List.nil_append _).symm hdoc
      · exact ⟨l, hl, hlists⟩
      · exact absurd ⟨l, hl, hpasses'⟩ hpasses
  · exact absurd hrun (hquiet cause)

/-- An index in memory is listed wherever its rows are named. -/
theorem reads_memory {rows : List Memory.Row} {hrows : Memory.Ordered rows}
    (henabled : c.enabled = true) (hsorted : (Memory.shelf rows hrows).Sorted)
    (hoverfetch : 1 ≤ limits.listOverfetch) (hpages : 1 ≤ limits.listMaxPages) :
    Reads (Memory.Of rows) c w limits (Memory.shelf rows hrows) where
  enabled := henabled
  sorted := hsorted
  answers guard timeout := Memory.answers rfl rfl c w.index
    (planned c w limits guard timeout).get_size_query
    (planned c w limits guard timeout).get_search_after_query
  one_le_overfetch := hoverfetch
  one_le_maxPages := hpages

end

/-! ## Two packages -/

namespace TwoPackages

/-- A file of each package. -/
def rows : List Memory.Row :=
  [⟨"aip-a", "f1", [("AIPUUID", .str "aip-a")]⟩, ⟨"aip-b", "f2", [("AIPUUID", .str "aip-b")]⟩]

def shelf : Shelf := Memory.shelf rows (by decide)

def client : Client := ⟨"http://index", .double .zero⟩

/-- One package at a time. -/
def wish : Wish := ⟨"aipfiles", some 1, ""⟩

/-- The index before it is asked. -/
def channel : Channel (Memory.Of rows) := .start .mk

/-- As many calls as may be needed, with no deadline. -/
def guards : List Guard := [.free, .free, .free]

def out : Except Fault (List Listing) :=
  ((chain client wish .standard (.double .zero) guards "").run.run channel).1

theorem sorted : shelf.Sorted := by
  refine Memory.sorted ?_
  simp only [rows, List.forall_mem_cons]
  exact ⟨⟨rfl, by decide, by decide⟩, ⟨rfl, by decide, by decide⟩, by simp⟩

theorem reads : Reads (Memory.Of rows) client wish .standard shelf :=
  reads_memory (by decide) sorted (by decide) (by decide)

theorem timed : ∀ guard ∈ guards, guard.Timed := by
  simp [guards, Guard.timed_free]

theorem not_stops : ¬ ∃ f, ∃ guard ∈ guards, guard.Stops f := by
  simp [guards, Guard.not_stops_free]

theorem out_ne (cause : StopCause) : out ≠ .error (.scanCancelled cause) := by
  intro hcancelled
  obtain ⟨ls, hrun, -⟩ | ⟨f, -, hstops⟩ := settles_chain reads (.double .zero) timed (by decide)
    (List.nil_append _).symm Cursor.decode_empty shelf.after_nil channel
  · cases hcancelled.symm.trans hrun
  · exact not_stops ⟨f, hstops⟩

/-- The second of the files. -/
def second : Hit := .ofJson (Memory.Row.hit ⟨"aip-b", "f2", [("AIPUUID", .str "aip-b")]⟩)

theorem second_mem : second ∈ shelf.docs := by
  simp [shelf, Memory.shelf, rows, second]

theorem after_second : shelf.after second.sort = [] := by
  have hdocs : shelf.docs =
      [.ofJson (Memory.Row.hit ⟨"aip-a", "f1", [("AIPUUID", .str "aip-a")]⟩)] ++ second :: [] := rfl
  exact shelf.after_sort hdocs

/-- The first listing: its page has both files, so its cursor stands after the second. -/
def first : Listing :=
  { items := [⟨"aip-a", ""⟩], nextCursor := Cursor.encode second.sort, pages := 1, limit := 1 }

/-- The listings after the first are of no file. -/
theorem out_eq : ∃ ls, out = .ok (first :: ls) ∧ Covers 1 [] ls := by
  let call : Call (Memory.Of rows) Listing :=
    list client { wish with cursor := "" } .standard .free (.double .zero)
  have hfirst : (call.run.run channel).1 = .ok first := rfl
  have htimed : ∀ guard ∈ guards.tail, guard.Timed := by
    simp [guards, Guard.timed_free]
  obtain ⟨ls, hrun, hcovers⟩ | ⟨f, -, hstops⟩ := settles_chain reads (.double .zero) htimed
    (by decide) (List.append_nil _).symm (sorted.decode_sort second_mem) after_second
    (call.run.run channel).2
  · refine ⟨ls, ?_, hcovers⟩
    rw [out, guards, chain, Call.run_bind_of_ok hfirst,
      if_neg (by simpa [first] using Cursor.encode_ne_empty second.sort)]
    have hnext : ((chain client wish .standard (.double .zero) [.free, .free]
      first.nextCursor).run.run (call.run.run channel).2).1 = .ok ls := hrun
    rw [Call.run_bind_of_ok hnext]
    rfl
  · simp [guards, Guard.not_stops_free] at hstops

end TwoPackages

/-- Two packages are listed one at a time. -/
theorem lists_iff_not_passes_twoPackages :
    ∃ ls, TwoPackages.out = .ok ls ∧ (∃ l, ls.getLast? = some l ∧ l.nextCursor = "") ∧
      ∀ aipUuid, TwoPackages.shelf.Has aipUuid →
        ((∃ l ∈ ls, Lists l.items aipUuid) ↔ ¬ ∃ l ∈ ls, Passes TwoPackages.shelf l aipUuid) :=
  lists_iff_not_passes TwoPackages.reads TwoPackages.timed (by decide) TwoPackages.out_ne

/-- The first page has both packages, and the cursor stands after the second: it is not listed. -/
theorem not_lists_twoPackages :
    Reads (Memory.Of TwoPackages.rows) TwoPackages.client TwoPackages.wish .standard
      TwoPackages.shelf ∧ TwoPackages.shelf.Has "aip-b" ∧
    ∃ ls, TwoPackages.out = .ok ls ∧ (∃ l, ls.getLast? = some l ∧ l.nextCursor = "") ∧
      ¬ ∃ l ∈ ls, Lists l.items "aip-b" := by
  obtain ⟨ls, hout, hcovers⟩ := TwoPackages.out_eq
  obtain ⟨last, hlast, hnext⟩ := hcovers.getLast?
  refine ⟨TwoPackages.reads, ⟨_, TwoPackages.second_mem, rfl⟩, _, hout,
    ⟨last, by simp [List.getLast?_cons, hlast], hnext⟩, ?_⟩
  rintro ⟨l, hl, hlists⟩
  obtain rfl | hl := List.mem_cons.1 hl
  · simp [Lists, TwoPackages.first] at hlists
  · obtain ⟨d, hd, -⟩ := hcovers.exists_doc hl hlists
    cases hd

end Listing

end ArchiveCensus
