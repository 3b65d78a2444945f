import Mathlib.Algebra.Group.Nat.Defs
import Mathlib.Data.List.Basic
import Mathlib.Data.Option.Basic
import ArchiveCensus.Text.Base64Url

/-!
# Proofs/Text/Base64Url — a text and its bytes are the same bits

A text of the alphabet is a string of bits, six for a symbol; bytes are a string of bits, eight for
a byte.  A text *spells* bytes when its bits are those of the bytes and fewer than six more, which
no byte is made of.

* `decode?_eq_some_iff` — reading gives exactly the bytes that are spelled.
* `decode?_encode` — what is written spells the bytes it was written for, so it is read back.
* `isSymbol_of_mem_encode` — and it is written in the alphabet.
-/

namespace ArchiveCensus.Text.Base64Url

/-! ## Bits -/

/-- The last bits of a number, the most significant first. -/
def bits : Nat → Nat → List Bool
  | 0, _ => []
  | width + 1, n => bits width (n / 2) ++ [n % 2 == 1]

@[simp] theorem length_bits (width n : Nat) : (bits width n).length = width := by
  induction width generalizing n with
  | zero => rfl
  | succ width ih => simp [bits, ih]

/-- **The bits of two numbers side by side are those of one number.** -/
theorem bits_append (width a : Nat) :
    ∀ (width' b : Nat), b < 2 ^ width' →
      bits width a ++ bits width' b = bits (width + width') (a * 2 ^ width' + b)
  | 0, b, h => by
      obtain rfl : b = 0 := by simpa using h
      simp [bits]
  | width' + 1, b, h => by
      have hhalf : b / 2 < 2 ^ width' := by
        rw [Nat.pow_succ] at h
        omega
      have heven : a * 2 ^ (width' + 1) = a * 2 ^ width' * 2 := by
        rw [Nat.pow_succ, Nat.mul_assoc]
      have hquot : (a * 2 ^ (width' + 1) + b) / 2 = a * 2 ^ width' + b / 2 := by omega
      have hrem : (a * 2 ^ (width' + 1) + b) % 2 = b % 2 := by omega
      rw [bits, ← List.append_assoc, bits_append width a width' (b / 2) hhalf, ← Nat.add_assoc,
        bits, hquot, hrem]

/-- A number below a power of two is known by its bits. -/
theorem eq_of_bits_eq :
    ∀ {width a b : Nat}, a < 2 ^ width → b < 2 ^ width → bits width a = bits width b → a = b
  | 0, a, b, ha, hb, _ => by
      rw [Nat.pow_zero] at ha hb
      omega
  | width + 1, a, b, ha, hb, h => by
      rw [Nat.pow_succ] at ha hb
      obtain ⟨hquot, hrem⟩ := List.append_inj' h rfl
      have hhalf : a / 2 = b / 2 := eq_of_bits_eq (by omega) (by omega) hquot
      have hparity : (a % 2 = 1) = (b % 2 = 1) := by simpa using hrem
      by_cases hodd : a % 2 = 1
      · have : b % 2 = 1 := hparity ▸ hodd
        omega
      · have : ¬ b % 2 = 1 := hparity ▸ hodd
        omega

/-! ## Spelling -/

/-- The bits of bytes. -/
def byteBits (bytes : List UInt8) : List Bool := bytes.flatMap fun b => bits 8 b.toNat

/-- The bits of six-bit values. -/
def symbolBits (vs : List Nat) : List Bool := vs.flatMap (bits 6)

/-- Whether a character is of the alphabet. -/
def IsSymbol (c : Char) : Prop := c.isAlphanum = true ∨ c = '-' ∨ c = '_'

/-- A text of the alphabet spells bytes: its bits are theirs, and at most five more. -/
def Spells (cs : List Char) (bytes : List UInt8) : Prop :=
  ∃ vs tail, cs.map value? = vs.map some ∧ tail.length < 6 ∧
    symbolBits vs = byteBits bytes ++ tail

@[simp] theorem byteBits_nil : byteBits [] = [] := rfl

@[simp] theorem byteBits_cons (b : UInt8) (bytes : List UInt8) :
    byteBits (b :: bytes) = bits 8 b.toNat ++ byteBits bytes := rfl

@[simp] theorem symbolBits_nil : symbolBits [] = [] := rfl

@[simp] theorem symbolBits_cons (v : Nat) (vs : List Nat) :
    symbolBits (v :: vs) = bits 6 v ++ symbolBits vs := rfl

theorem length_byteBits (bytes : List UInt8) : (byteBits bytes).length = 8 * bytes.length := by
  induction bytes with
  | nil => rfl
  | cons b bytes ih =>
    rw [byteBits_cons, List.length_append, length_bits, ih, List.length_cons]
    omega

theorem length_symbolBits (vs : List Nat) : (symbolBits vs).length = 6 * vs.length := by
  induction vs with
  | nil => rfl
  | cons v vs ih =>
    rw [symbolBits_cons, List.length_append, length_bits, ih, List.length_cons]
    omega

/-- Bytes are known by their bits, even with fewer than eight more behind them. -/
theorem eq_of_byteBits_append_eq :
    ∀ {bytes bytes' : List UInt8} {tail tail' : List Bool}, tail.length < 8 → tail'.length < 8 →
      byteBits bytes ++ tail = byteBits bytes' ++ tail' → bytes = bytes'
  | [], [], _, _, _, _, _ => rfl
  | [], b' :: bytes', tail, tail', h, _, he => by
      have := congrArg List.length he
      simp only [byteBits_nil, byteBits_cons, List.length_append, List.length_nil,
        length_bits] at this
      omega
  | b :: bytes, [], tail, tail', _, h', he => by
      have := congrArg List.length he
      simp only [byteBits_nil, byteBits_cons, List.length_append, List.length_nil,
        length_bits] at this
      omega
  | b :: bytes, b' :: bytes', tail, tail', h, h', he => by
      rw [byteBits_cons, byteBits_cons, List.append_assoc, List.append_assoc] at he
      obtain ⟨hhead, hrest⟩ := List.append_inj he (by simp)
      have hb : b = b' := UInt8.toNat_inj.1 (eq_of_bits_eq b.toNat_lt b'.toNat_lt hhead)
      rw [hb, eq_of_byteBits_append_eq h h' hrest]

/-- **A text spells one list of bytes at most.** -/
theorem Spells.unique {cs : List Char} {bytes bytes' : List UInt8} (h : Spells cs bytes)
    (h' : Spells cs bytes') : bytes = bytes' := by
  obtain ⟨vs, tail, hvs, ht, he⟩ := h
  obtain ⟨vs', tail', hvs', ht', he'⟩ := h'
  have hsame : vs = vs' := List.map_injective_iff.2 (Option.some_injective _) (hvs.symm.trans hvs')
  refine eq_of_byteBits_append_eq (by omega : tail.length < 8) (by omega : tail'.length < 8) ?_
  rw [← he, ← he', hsame]

/-! ## Groups

Four symbols and three bytes are the same twenty-four bits of one number, and a last group of two or
three symbols has four or two bits to spare. -/

theorem value?_lt {c : Char} {v : Nat} (h : value? c = some v) : v < 64 := by
  simp only [value?] at h
  split at h
  · cases h
    omega
  split at h
  · cases h
    omega
  split at h
  · cases h
    omega
  split at h
  · cases h
    omega
  split at h
  · cases h
    omega
  · cases h

theorem toNat_byte {n : Nat} (h : n < 256) : (byte n).toNat = n := by
  rw [byte, UInt8.toNat_ofNat']
  exact Nat.mod_eq_of_lt h

/-- Four six-bit values side by side are one number of twenty-four bits. -/
theorem bits_symbols {a b c d : Nat} (hb : b < 64) (hc : c < 64) (hd : d < 64) :
    bits 6 a ++ (bits 6 b ++ (bits 6 c ++ bits 6 d)) =
      bits 24 (a * 262144 + b * 4096 + c * 64 + d) := by
  rw [bits_append 6 c 6 d hd, bits_append 6 b 12 _ (by omega), bits_append 6 a 18 _ (by omega)]
  exact congrArg (bits 24) (by omega)

/-- Three bytes side by side are one number of twenty-four bits. -/
theorem bits_bytes {a b c : Nat} (hb : b < 256) (hc : c < 256) :
    bits 8 a ++ (bits 8 b ++ bits 8 c) = bits 24 (a * 65536 + b * 256 + c) := by
  rw [bits_append 8 b 8 c hc, bits_append 8 a 16 _ (by omega)]
  exact congrArg (bits 24) (by omega)

/-- Four symbols are the bits of three bytes. -/
theorem bits_four {a b c d : Nat} (hb : b < 64) (hc : c < 64) (hd : d < 64) :
    bits 6 a ++ (bits 6 b ++ (bits 6 c ++ bits 6 d)) =
      bits 8 ((a * 262144 + b * 4096 + c * 64 + d) / 65536) ++
        (bits 8 ((a * 262144 + b * 4096 + c * 64 + d) / 256 % 256) ++
          bits 8 ((a * 262144 + b * 4096 + c * 64 + d) % 256)) := by
  rw [bits_symbols hb hc hd, bits_bytes (by omega) (by omega)]
  exact congrArg (bits 24) (by omega)

/-- Three symbols are the bits of two bytes and two more. -/
theorem bits_three {a b c : Nat} (hb : b < 64) (hc : c < 64) :
    bits 6 a ++ (bits 6 b ++ bits 6 c) =
      bits 8 ((a * 4096 + b * 64 + c) / 1024) ++
        (bits 8 ((a * 4096 + b * 64 + c) / 4 % 256) ++ bits 2 (c % 4)) := by
  rw [bits_append 6 b 6 c hc, bits_append 6 a 12 _ (by omega),
    bits_append 8 _ 2 _ (by omega : c % 4 < 2 ^ 2), bits_append 8 _ 10 _ (by omega)]
  exact congrArg (bits 18) (by omega)

/-- Two symbols are the bits of a byte and four more. -/
theorem bits_two {a b : Nat} (hb : b < 64) :
    bits 6 a ++ bits 6 b = bits 8 ((a * 64 + b) / 16) ++ bits 4 (b % 16) := by
  rw [bits_append 6 a 6 b hb, bits_append 8 _ 4 _ (by omega : b % 16 < 2 ^ 4)]
  exact congrArg (bits 12) (by omega)

/-! ## Reading -/

/-- **What is read is spelled.** -/
theorem spells_of_decode? :
    ∀ {cs : List Char} {bytes : List UInt8}, decode? cs = some bytes → Spells cs bytes
  | a :: b :: c :: d :: rest, bytes, h => by
      simp only [decode?, Option.bind_eq_bind, Option.bind_eq_some_iff, Option.pure_def,
        Option.some.injEq] at h
      obtain ⟨va, ha, vb, hb, vc, hc, vd, hd, more, hmore, rfl⟩ := h
      obtain ⟨vs, tail, hvs, ht, he⟩ := spells_of_decode? hmore
      have hla := value?_lt ha
      have hlb := value?_lt hb
      have hlc := value?_lt hc
      have hld := value?_lt hd
      refine ⟨va :: vb :: vc :: vd :: vs, tail, by simp [ha, hb, hc, hd, hvs], ht, ?_⟩
      have hgroup := bits_four (a := va) hlb hlc hld
      have hfirst : (va * 262144 + vb * 4096 + vc * 64 + vd) / 65536 < 256 := by omega
      simp only [symbolBits_cons, byteBits_cons, toNat_byte hfirst,
        toNat_byte (Nat.mod_lt _ (by decide)), he, ← List.append_assoc] at hgroup ⊢
      rw [hgroup]
  | [a, b, c], bytes, h => by
      simp only [decode?, Option.bind_eq_bind, Option.bind_eq_some_iff, Option.pure_def,
        Option.some.injEq] at h
      obtain ⟨va, ha, vb, hb, vc, hc, rfl⟩ := h
      have hla := value?_lt ha
      have hlb := value?_lt hb
      have hlc := value?_lt hc
      refine ⟨[va, vb, vc], bits 2 (vc % 4), by simp [ha, hb, hc], by simp, ?_⟩
      have hfirst : (va * 4096 + vb * 64 + vc) / 1024 < 256 := by omega
      simp only [symbolBits_cons, symbolBits_nil, byteBits_cons, byteBits_nil, toNat_byte hfirst,
        toNat_byte (Nat.mod_lt _ (by decide)), List.append_nil, List.append_assoc]
      exact bits_three hlb hlc
  | [a, b], bytes, h => by
      simp only [decode?, Option.bind_eq_bind, Option.bind_eq_some_iff, Option.pure_def,
        Option.some.injEq] at h
      obtain ⟨va, ha, vb, hb, rfl⟩ := h
      have hla := value?_lt ha
      have hlb := value?_lt hb
      refine ⟨[va, vb], bits 4 (vb % 16), by simp [ha, hb], by simp, ?_⟩
      have hfirst : (va * 64 + vb) / 16 < 256 := by omega
      simp only [symbolBits_cons, symbolBits_nil, byteBits_cons, byteBits_nil, toNat_byte hfirst,
        List.append_nil]
      exact bits_two hlb
  | [_], _, h => by cases h
  | [], _, h => by
      cases h
      exact ⟨[], [], rfl, by simp, rfl⟩

/-- A text of the alphabet is read unless its last group is a lone symbol. -/
theorem exists_decode? :
    ∀ {cs : List Char}, (∀ c ∈ cs, ∃ v, value? c = some v) → cs.length % 4 ≠ 1 →
      ∃ bytes, decode? cs = some bytes
  | a :: b :: c :: d :: rest, h, hlen => by
      obtain ⟨va, ha⟩ := h a (by simp)
      obtain ⟨vb, hb⟩ := h b (by simp)
      obtain ⟨vc, hc⟩ := h c (by simp)
      obtain ⟨vd, hd⟩ := h d (by simp)
      simp only [List.length_cons] at hlen
      have hrest : ∀ e ∈ rest, ∃ v, value? e = some v := fun e he => h e (by simp [he])
      obtain ⟨bytes, hbytes⟩ := exists_decode? hrest (by omega)
      simp [decode?, ha, hb, hc, hd, hbytes]
  | [a, b, c], h, _ => by
      obtain ⟨va, ha⟩ := h a (by simp)
      obtain ⟨vb, hb⟩ := h b (by simp)
      obtain ⟨vc, hc⟩ := h c (by simp)
      simp [decode?, ha, hb, hc]
  | [a, b], h, _ => by
      obtain ⟨va, ha⟩ := h a (by simp)
      obtain ⟨vb, hb⟩ := h b (by simp)
      simp [decode?, ha, hb]
  | [_], _, hlen => absurd rfl hlen
  | [], _, _ => ⟨[], rfl⟩

/-- **Reading gives exactly the bytes that are spelled.** -/
theorem decode?_eq_some_iff {cs : List Char} {bytes : List UInt8} :
    decode? cs = some bytes ↔ Spells cs bytes := by
  refine ⟨spells_of_decode?, fun h => ?_⟩
  obtain ⟨vs, tail, hvs, ht, he⟩ := h
  have hlen : 6 * vs.length = 8 * bytes.length + tail.length := by
    rw [← length_symbolBits, he, List.length_append, length_byteBits]
  have hcount : cs.length = vs.length := by simpa using congrArg List.length hvs
  have hsymbols : ∀ c ∈ cs, ∃ v, value? c = some v := by
    intro c hc
    obtain ⟨v, -, hv⟩ := List.mem_map.1 (hvs ▸ List.mem_map_of_mem hc)
    exact ⟨v, hv.symm⟩
  obtain ⟨bytes', h'⟩ := exists_decode? hsymbols (by omega)
  rw [h', (spells_of_decode? h').unique ⟨vs, tail, hvs, ht, he⟩]

/-! ## Writing -/

/-- Every six-bit value has a symbol of the alphabet. -/
theorem isSymbol_symbol : ∀ {v : Nat}, v < 64 → IsSymbol (symbol v) := by
  unfold IsSymbol
  decide

theorem byte_eq {n : Nat} {b : UInt8} (h : n = b.toNat) : byte n = b := by
  rw [h, byte, UInt8.ofNat_toNat]

/-- **What is written is read back.** -/
theorem decode?_encode : ∀ bytes : List UInt8, decode? (encode bytes) = some bytes
  | a :: b :: c :: rest => by
      have ha := a.toNat_lt
      have hb := b.toNat_lt
      have hc := c.toNat_lt
      rw [encode, decode?, value?_symbol (by omega), value?_symbol (Nat.mod_lt _ (by decide)),
        value?_symbol (Nat.mod_lt _ (by decide)), value?_symbol (Nat.mod_lt _ (by decide)),
        decode?_encode rest]
      simp only [Option.bind_eq_bind, Option.bind_some, Option.pure_def]
      rw [byte_eq (b := a) (by omega), byte_eq (b := b) (by omega), byte_eq (b := c) (by omega)]
  | [a, b] => by
      have ha := a.toNat_lt
      have hb := b.toNat_lt
      rw [encode, decode?, value?_symbol (by omega), value?_symbol (Nat.mod_lt _ (by decide)),
        value?_symbol (by omega)]
      simp only [Option.bind_eq_bind, Option.bind_some, Option.pure_def]
      rw [byte_eq (b := a) (by omega), byte_eq (b := b) (by omega)]
  | [a] => by
      have ha := a.toNat_lt
      rw [encode, decode?, value?_symbol (by omega), value?_symbol (by omega)]
      simp only [Option.bind_eq_bind, Option.bind_some, Option.pure_def]
      rw [byte_eq (b := a) (by omega)]
  | [] => rfl

/-- **What is written is of the alphabet.** -/
theorem isSymbol_of_mem_encode : ∀ {bytes : List UInt8} {s : Char}, s ∈ encode bytes → IsSymbol s
  | a :: b :: c :: rest, s, h => by
      have ha := a.toNat_lt
      have hb := b.toNat_lt
      have hc := c.toNat_lt
      simp only [encode, List.mem_cons] at h
      rcases h with rfl | rfl | rfl | rfl | h
      · exact isSymbol_symbol (by omega)
      · exact isSymbol_symbol (Nat.mod_lt _ (by decide))
      · exact isSymbol_symbol (Nat.mod_lt _ (by decide))
      · exact isSymbol_symbol (Nat.mod_lt _ (by decide))
      · exact isSymbol_of_mem_encode h
  | [a, b], s, h => by
      have ha := a.toNat_lt
      have hb := b.toNat_lt
      simp only [encode, List.mem_cons, List.not_mem_nil, or_false] at h
      rcases h with rfl | rfl | rfl
      · exact isSymbol_symbol (by omega)
      · exact isSymbol_symbol (Nat.mod_lt _ (by decide))
      · exact isSymbol_symbol (by omega)
  | [a], s, h => by
      have ha := a.toNat_lt
      simp only [encode, List.mem_cons, List.not_mem_nil, or_false] at h
      rcases h with rfl | rfl
      · exact isSymbol_symbol (by omega)
      · exact isSymbol_symbol (by omega)
  | [], s, h => by simp [encode] at h

/-- Something is written for some bytes. -/
theorem encode_ne_nil : ∀ {bytes : List UInt8}, bytes ≠ [] → encode bytes ≠ []
  | _ :: _ :: _ :: _, _ => by simp [encode]
  | [_, _], _ => by simp [encode]
  | [_], _ => by simp [encode]
  | [], h => absurd rfl h

end ArchiveCensus.Text.Base64Url
