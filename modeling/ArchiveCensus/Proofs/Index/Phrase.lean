import ArchiveCensus.Index.Lookup
import ArchiveCensus.Index.Script
import ArchiveCensus.Proofs.Index.Turn

/-!
# Proofs/Index/Phrase — what the quotes around an identifier hold

A lookup asks for the documents that mention an identifier by a phrase: the identifier between two
quotes.  The index reads a phrase up to the first quote that is not escaped, and a backslash in it
escapes the character behind it.  The identifier stands between the quotes as it is, so the phrase
says the identifier exactly where it has no quote and no backslash.

* `Phrase.read?` — how a phrase is read, and `Phrase.Spells` — what stands in one.
* `Phrase.read?_eq_some_iff` — what is read of a text is the phrase that it starts with.
* `Phrase.holds_quoted` — what is read of a text between quotes.
* `Lookup.exists_holds` — so what is read of the identifier of a lookup.
* `Lookup.not_says_twoPhrases` — an identifier that leaves its quotes.
-/

namespace ArchiveCensus

variable {σ : Type}

namespace Phrase

/-! ## Reading -/

/-- What is left of a phrase behind its opening quote: what it says, and the text behind the quote
that closes it; nothing where no quote does. -/
def readBody? : List Char → Option (List Char × List Char)
  | [] => none
  | '"' :: rest => some ([], rest)
  | ['\\'] => none
  | '\\' :: c :: rest => (readBody? rest).map fun (content, after) => (c :: content, after)
  | c :: rest => (readBody? rest).map fun (content, after) => (c :: content, after)

/-- The phrase that a text starts with: what it says, and the text behind it. -/
def read? : List Char → Option (List Char × List Char)
  | '"' :: rest => readBody? rest
  | _ => none

/-- What stands between the quotes of a phrase, and what it says: a backslash is not said, and the
character behind it is; any other character but a quote says itself. -/
inductive Spells : List Char → List Char → Prop where
  | nil : Spells [] []
  | plain {c : Char} {body content : List Char} (quote : c ≠ '"') (backslash : c ≠ '\\')
      (rest : Spells body content) : Spells (c :: body) (c :: content)
  | escaped (c : Char) {body content : List Char} (rest : Spells body content) :
      Spells ('\\' :: c :: body) (c :: content)

/-- What is spelled is read up to the quote behind it, -/
theorem Spells.readBody?_append {body content : List Char} (h : Spells body content)
    (after : List Char) : readBody? (body ++ '"' :: after) = some (content, after) := by
  induction h with
  | nil => rfl
  | @plain c body content quote backslash _ ih =>
    have hone : readBody? (c :: (body ++ '"' :: after)) =
        (readBody? (body ++ '"' :: after)).map fun (content, after) => (c :: content, after) :=
      readBody?.eq_5 c _ quote (fun h _ => backslash h) fun _ _ h _ => backslash h
    rw [List.cons_append, hone, ih]
    rfl
  | @escaped c body content _ ih =>
    rw [List.cons_append, List.cons_append, readBody?, ih]
    rfl

/-- and what is read is spelled up to a quote. -/
theorem exists_of_readBody? {cs content after : List Char}
    (h : readBody? cs = some (content, after)) :
    ∃ body, cs = body ++ '"' :: after ∧ Spells body content := by
  fun_induction readBody? cs generalizing content with
  | case1 | case3 => cases h
  | case2 rest =>
    cases h
    exact ⟨[], rfl, .nil⟩
  | case4 c rest ih =>
    obtain ⟨⟨content, after⟩, hrest, heq⟩ := Option.map_eq_some_iff.1 h
    cases heq
    obtain ⟨body, rfl, hbody⟩ := ih hrest
    exact ⟨'\\' :: c :: body, rfl, .escaped c hbody⟩
  | case5 c rest quote hlast hescaped ih =>
    obtain ⟨⟨content, after⟩, hrest, heq⟩ := Option.map_eq_some_iff.1 h
    cases heq
    have backslash : c ≠ '\\' := by
      rintro rfl
      cases rest with
      | nil => exact hlast rfl rfl
      | cons e rest => exact hescaped e rest rfl rfl
    obtain ⟨body, rfl, hbody⟩ := ih hrest
    exact ⟨c :: body, rfl, .plain quote backslash hbody⟩

/-- **What is read of a text is the phrase that it starts with.** -/
theorem read?_eq_some_iff {cs content after : List Char} :
    read? cs = some (content, after) ↔
      ∃ body, cs = '"' :: (body ++ '"' :: after) ∧ Spells body content := by
  constructor
  · intro h
    unfold read? at h
    split at h
    · obtain ⟨body, rfl, hbody⟩ := exists_of_readBody? h
      exact ⟨body, rfl, hbody⟩
    · cases h
  · rintro ⟨body, rfl, hbody⟩
    exact hbody.readBody?_append after

/-! ## Texts between quotes -/

/-- A phrase says no more characters than stand in it. -/
theorem Spells.length_le {body content : List Char} (h : Spells body content) :
    content.length ≤ body.length := by
  induction h with
  | nil => exact Nat.le_refl _
  | plain _ _ _ ih => exact Nat.succ_le_succ ih
  | escaped c _ ih => exact Nat.le_succ_of_le (Nat.succ_le_succ ih)

/-- A text says itself exactly where it has no quote and no backslash. -/
theorem spells_self_iff : ∀ {text : List Char},
    Spells text text ↔ ∀ c ∈ text, c ≠ '"' ∧ c ≠ '\\'
  | [] => by simp [Spells.nil]
  | c :: text => by
    have hrest : Spells text text ↔ ∀ c ∈ text, c ≠ '"' ∧ c ≠ '\\' := spells_self_iff
    rw [List.forall_mem_cons, ← hrest]
    constructor
    · intro h
      cases h with
      | plain quote backslash rest => exact ⟨⟨quote, backslash⟩, rest⟩
      | escaped _ rest =>
        -- what is escaped says less than stands there
        have hless := rest.length_le
        simp only [List.length_cons] at hless
        omega
    · rintro ⟨⟨quote, backslash⟩, hrest⟩
      exact .plain quote backslash hrest

/-- What quotes around a text hold, as it is read. -/
structure Holds (quoted text : List Char) : Prop where
  /-- There is one phrase to the end exactly where the text spells what it says, -/
  whole_iff : ∀ content, read? quoted = some (content, []) ↔ Spells text content
  /-- it says the text exactly where neither a quote nor a backslash is in it, -/
  says_iff : read? quoted = some (text, []) ↔ ∀ c ∈ text, c ≠ '"' ∧ c ≠ '\\'
  /-- and part of the text is read behind it exactly where a quote in the text closes it. -/
  leaves_iff : ∀ content rest, read? quoted = some (content, rest ++ ['"']) ↔
    ∃ body, text = body ++ '"' :: rest ∧ Spells body content

/-- **What is read of a text between quotes.** -/
theorem holds_quoted (text : List Char) : Holds ('"' :: (text ++ ['"'])) text := by
  have hwhole : ∀ content, read? ('"' :: (text ++ ['"'])) = some (content, []) ↔
      Spells text content := fun content => by
    rw [read?_eq_some_iff]
    constructor
    · rintro ⟨body, heq, hbody⟩
      rwa [List.append_cancel_right (List.cons.inj heq).2]
    · exact fun h => ⟨text, rfl, h⟩
  refine ⟨hwhole, (hwhole text).trans spells_self_iff, fun content rest => ?_⟩
  have hsplit : ∀ body : List Char,
      body ++ '"' :: (rest ++ ['"']) = (body ++ '"' :: rest) ++ ['"'] := fun body => by simp
  rw [read?_eq_some_iff]
  constructor
  · rintro ⟨body, heq, hbody⟩
    rw [hsplit] at heq
    exact ⟨body, List.append_cancel_right (List.cons.inj heq).2, hbody⟩
  · rintro ⟨body, rfl, hbody⟩
    exact ⟨body, by rw [hsplit], hbody⟩

end Phrase

/-! ## Lookups -/

/-- The text of a document that is one. -/
def Json.text? : Json → Option String
  | .str s => some s
  | _ => none

/-- The query strings among the queries any of which a request asks for. -/
def Request.phrases (r : Request) : List String :=
  ((r.body.getD .null).follow ["query", "bool", "should"]).repeated.filterMap fun query =>
    (query.follow ["query_string", "query"]).text?

/-- A search sends one request, whatever comes of it. -/
theorem Client.sent_search [Responder σ] {c : Client} (hon : c.enabled = true) (index : String)
    (query : Json) (ch : Channel σ) :
    ((c.search index query none : Call σ Page).run.run ch).2.sent =
      ch.sent ++ [⟨c.endpoint ++ searchPath index, c.timeout, some query⟩] := by
  -- a pager whose query has no position
  let p : Pager := ⟨c, index, fun _ => query, .free, c.timeout⟩
  have hsearch : (c.search index query none : Call σ Page) =
      c.search index query (some c.timeout) := rfl
  rw [hsearch]
  obtain ⟨-, hoff⟩ | ⟨_, hrun, -⟩ | ⟨_, _, _, hrun, -, -⟩ | ⟨hrun, -⟩ :=
    p.run_search [] (m := ⟨ch, p.request [] c.timeout⟩) rfl rfl
  · rw [hon] at hoff
    cases hoff
  all_goals
    rw [hrun]
    exact Moment.sent_after _

namespace Lookup

/-- A lookup has one query string: its identifier between quotes. -/
theorem phrases_body (url : String) (t : Number) (uuid : String) (limit : Int) :
    Request.phrases ⟨url, t, some (body uuid limit)⟩ = ["\"" ++ uuid ++ "\""] := rfl

variable [Responder σ]

/-- **What is read of the identifier of a lookup**: one request is sent, with one query string, and
that has the identifier between quotes as it stands. -/
theorem exists_holds {c : Client} (hon : c.enabled = true) {transferUuid : String}
    (hname : Text.trim transferUuid ≠ "") (limit : Int) (ch : Channel σ) :
    ∃ r phrase, ((find c transferUuid limit : Call σ Lookup).run.run ch).2.sent = ch.sent ++ [r] ∧
      r.phrases = [phrase] ∧ phrase = "\"" ++ Text.trim transferUuid ++ "\"" ∧
      Phrase.Holds phrase.toList (Text.trim transferUuid).toList := by
  have hsent := Client.sent_search hon "" (body (Text.trim transferUuid) limit) ch
  have hrun : ((find c transferUuid limit : Call σ Lookup).run.run ch).2 =
      ((c.search "" (body (Text.trim transferUuid) limit) none : Call σ Page).run.run ch).2 := by
    unfold find
    simp only [String.isEmpty_iff, hname, if_false]
    rw [Call.run_bind]
    generalize (c.search "" (body (Text.trim transferUuid) limit) none : Call σ Page).run.run ch =
      out
    obtain ⟨_ | _, _⟩ := out <;> rfl
  rw [← hrun] at hsent
  refine ⟨_, _, hsent, phrases_body .., rfl, ?_⟩
  have hquoted : ("\"" ++ Text.trim transferUuid ++ "\"").toList =
      '"' :: ((Text.trim transferUuid).toList ++ ['"']) := by simp
  rw [hquoted]
  exact Phrase.holds_quoted _

/-! ## Two identifiers -/

/-- An index that answers every request with an empty map. -/
def blankIndex : Script := ⟨[]⟩

/-- The client of an index. -/
def indexClient : Client := .ofEndpoint "http://index" (.double .zero)

/-- The requests for an identifier. -/
def requests (transferUuid : String) : List Request :=
  ((find indexClient transferUuid 5 : Call Script Lookup).run.run (.start blankIndex)).2.sent

/-- Of a plain identifier with blanks around it, the phrase says the identifier. -/
theorem exists_holds_padded : ∃ r phrase, requests " aip-42 " = [r] ∧ r.phrases = [phrase] ∧
    Phrase.read? phrase.toList = some ("aip-42".toList, []) := by
  have htrim : Text.trim " aip-42 " = "aip-42" := by decide +kernel
  have hname : Text.trim " aip-42 " ≠ "" := by
    rw [htrim]
    decide
  obtain ⟨r, phrase, hsent, hphrases, -, hholds⟩ :=
    exists_holds (c := indexClient) (by decide) hname 5 (.start blankIndex)
  rw [htrim] at hholds
  exact ⟨r, phrase, hsent, hphrases, hholds.says_iff.2 (by simp)⟩

/-- **An identifier leaves its quotes**: the first quote in it closes the phrase, and the rest is
read as part of the query. -/
theorem not_says_twoPhrases : Text.trim "a\" OR \"b" = "a\" OR \"b" ∧
    (requests "a\" OR \"b").map Request.phrases = [["\"a\" OR \"b\""]] ∧
    Phrase.read? "\"a\" OR \"b\"".toList = some ("a".toList, " OR \"b\"".toList) := by
  decide +kernel

end Lookup

end ArchiveCensus
