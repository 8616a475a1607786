import ScriptVet.Text.Half
import ScriptVet.Text.Utf8

/-!
# Octets spell one text

The strict reader of UTF-8 gives back every text from its octets. So a text is determined by its
octets, and what is decided about octets can be decided about characters. Octets that are those of
no text are refused. The octets also tell whether a text spells one of the characters that stand for
halves of surrogate pairs, which texts that are read must not.

Both proofs follow the lengths of characters: `lead_…` says what the first octet of a character of
each length promises, `decodeFrom_continuation` and `decodeFrom_last` pay it off, and the lemmas
that end in `_inv` say that it was paid off in no other way.
-/

namespace ScriptVet.Text.Utf8

theorem toNat_octet {n : Nat} (h : n < 256) : (UInt8.ofNat n).toNat = n := by
  simp only [UInt8.toNat_ofNat']
  omega

theorem toNat_continuation (n : Nat) : (continuation n).toNat = 0x80 + n % 64 := by
  rw [continuation, toNat_octet (by omega)]

/-- An octet between the usual bounds continues a character. -/
theorem accepts_continuation {p : Pending} {n : Nat} (hlow : p.low.toNat ≤ 0x80 + n % 64)
    (hhigh : 0x80 + n % 64 ≤ p.high.toNat) : p.accepts (continuation n) := by
  simp only [Pending.accepts, Bool.and_eq_true, decide_eq_true_eq, UInt8.le_iff_toNat_le,
    toNat_continuation]
  exact ⟨hlow, hhigh⟩

theorem extend_continuation (p : Pending) (n : Nat) :
    p.extend (continuation n) = 64 * p.value + n % 64 := by
  rw [Pending.extend, toNat_continuation]
  omega

theorem lead_single {n : Nat} (h : n < 0x80) : lead (UInt8.ofNat n) = .whole (Char.ofNat n) := by
  have hn : (UInt8.ofNat n).toNat = n := toNat_octet (by omega)
  rw [lead, if_pos (by rw [UInt8.lt_iff_toNat_lt, hn]; exact h), hn]

theorem lead_double {n : Nat} (hlow : 0xC2 ≤ n) (hhigh : n < 0xE0) :
    lead (UInt8.ofNat n) = .owes ⟨1, 0x80, 0xBF, n - 0xC0⟩ := by
  have hn : (UInt8.ofNat n).toNat = n := toNat_octet (by omega)
  simp only [lead, UInt8.lt_iff_toNat_lt, hn]
  rw [if_neg (by simp; omega), if_neg (by simp; omega), if_pos (by simp; omega)]

/-- The octets after 0xE0 and 0xED have bounds of their own: they keep out the longer forms of
shorter characters, and the halves of surrogate pairs. -/
theorem lead_triple {n : Nat} (hlow : 0xE0 ≤ n) (hhigh : n < 0xF0) :
    lead (UInt8.ofNat n) = .owes ⟨2, if n = 0xE0 then 0xA0 else 0x80,
      if n = 0xED then 0x9F else 0xBF, n - 0xE0⟩ := by
  have hn : (UInt8.ofNat n).toNat = n := toNat_octet (by omega)
  simp only [lead, UInt8.lt_iff_toNat_lt, beq_iff_eq, ← UInt8.toNat_inj, hn]
  rw [if_neg (by simp; omega), if_neg (by simp; omega), if_neg (by simp; omega)]
  by_cases hE0 : n = 0xE0
  · subst hE0
    rfl
  by_cases hED : n = 0xED
  · subst hED
    rfl
  rw [if_neg (by simpa using hE0), if_neg (by simpa using hED), if_pos (by simp; omega),
    if_neg hE0, if_neg hED]

theorem lead_quadruple {n : Nat} (hlow : 0xF0 ≤ n) (hhigh : n ≤ 0xF4) :
    lead (UInt8.ofNat n) = .owes ⟨3, if n = 0xF0 then 0x90 else 0x80,
      if n = 0xF4 then 0x8F else 0xBF, n - 0xF0⟩ := by
  obtain rfl | rfl | rfl | rfl | rfl :
      n = 0xF0 ∨ n = 0xF1 ∨ n = 0xF2 ∨ n = 0xF3 ∨ n = 0xF4 := by omega
  all_goals rfl

/-- An owed octet that does not end the character. -/
theorem decodeFrom_continuation {p : Pending} {n : Nat} (howed : 1 < p.owed)
    (hlow : p.low.toNat ≤ 0x80 + n % 64) (hhigh : 0x80 + n % 64 ≤ p.high.toNat)
    (bs : List UInt8) :
    decodeFrom (some p) (continuation n :: bs) =
      decodeFrom (some ⟨p.owed - 1, 0x80, 0xBF, 64 * p.value + n % 64⟩) bs := by
  rw [decodeFrom, if_pos (accepts_continuation hlow hhigh), if_neg (by omega), Pending.next,
    extend_continuation]

/-- The last owed octet ends the character. -/
theorem decodeFrom_last {p : Pending} {n : Nat} (howed : p.owed ≤ 1)
    (hlow : p.low.toNat ≤ 0x80 + n % 64) (hhigh : 0x80 + n % 64 ≤ p.high.toNat)
    (bs : List UInt8) :
    decodeFrom (some p) (continuation n :: bs) =
      (decodeFrom none bs).map (Char.ofNat (64 * p.value + n % 64) :: ·) := by
  rw [decodeFrom, if_pos (accepts_continuation hlow hhigh), if_pos howed, extend_continuation]

/-- Characters leave out the halves of surrogate pairs. -/
theorem toNat_bounds (c : Char) :
    c.toNat < 0xD800 ∨ 0xE000 ≤ c.toNat ∧ c.toNat < 0x110000 := by
  have h : c.toNat < 0xD800 ∨ 0xDFFF < c.toNat ∧ c.toNat < 0x110000 := c.valid
  omega

/-- The strict reader takes the octets of a character for the character. -/
theorem decodeFrom_encodeChar (c : Char) (bs : List UInt8) :
    decodeFrom none (encodeChar c ++ bs) = (decodeFrom none bs).map (c :: ·) := by
  have bounds := toNat_bounds c
  have back {n : Nat} (h : n = c.toNat) : Char.ofNat n = c := by rw [h, Char.ofNat_toNat]
  simp only [encodeChar]
  split
  · next h1 =>
    rw [List.cons_append, decodeFrom, lead_single h1]
    simp [Char.ofNat_toNat]
  split
  · next h1 h2 =>
    rw [List.cons_append, decodeFrom, lead_double (by omega) (by omega)]
    simp only [List.cons_append, List.nil_append]
    rw [decodeFrom_last (by simp) (by simp) (by simp; omega), back (by simp only; omega)]
  split
  · next h1 h2 h3 =>
    rw [List.cons_append, decodeFrom, lead_triple (by omega) (by omega)]
    simp only [List.cons_append, List.nil_append]
    -- The second octet lies within the narrower bounds because the character has this length.
    have hlow : (if 0xE0 + c.toNat / 4096 = 0xE0 then 0xA0 else 0x80 : UInt8).toNat ≤
        0x80 + c.toNat / 64 % 64 := by
      split <;> simp
      omega
    have hhigh : 0x80 + c.toNat / 64 % 64 ≤
        (if 0xE0 + c.toNat / 4096 = 0xED then 0x9F else 0xBF : UInt8).toNat := by
      split <;> simp <;> omega
    rw [decodeFrom_continuation (by simp) hlow hhigh,
      decodeFrom_last (by simp) (by simp) (by simp; omega), back (by simp only; omega)]
  · next h1 h2 h3 =>
    rw [List.cons_append, decodeFrom, lead_quadruple (by omega) (by omega)]
    simp only [List.cons_append, List.nil_append]
    have hlow : (if 0xF0 + c.toNat / 262144 = 0xF0 then 0x90 else 0x80 : UInt8).toNat ≤
        0x80 + c.toNat / 4096 % 64 := by
      split <;> simp
      omega
    have hhigh : 0x80 + c.toNat / 4096 % 64 ≤
        (if 0xF0 + c.toNat / 262144 = 0xF4 then 0x8F else 0xBF : UInt8).toNat := by
      split <;> simp <;> omega
    rw [decodeFrom_continuation (by simp) hlow hhigh,
      decodeFrom_continuation (by simp) (by simp) (by simp; omega),
      decodeFrom_last (by simp) (by simp) (by simp; omega), back (by simp only; omega)]

/-- The octets of a text spell the text. -/
@[simp] theorem decode?_encode (cs : List Char) : decode? (encode cs) = some cs := by
  unfold decode?
  induction cs with
  | nil => rfl
  | cons c cs ih =>
      rw [encode_cons, decodeFrom_encodeChar, ih]
      rfl

/-- Where the strict reader reads a text the lenient one reads the same. -/
theorem decodeLossyFrom_of_decodeFrom {pending : Option Pending} {bs : List UInt8} {cs : List Char}
    (read : decodeFrom pending bs = some cs) : decodeLossyFrom pending bs = cs := by
  fun_induction decodeFrom pending bs generalizing cs with
  | case1 =>
      cases read
      rfl
  | case3 b bs c whole ih =>
      obtain ⟨rest, others, rfl⟩ := Option.map_eq_some_iff.mp read
      rw [decodeLossyFrom, whole, ← ih others]
  | case4 b bs p owes ih =>
      rw [decodeLossyFrom, owes, ← ih read]
  | case6 p b bs accepted last ih =>
      obtain ⟨rest, others, rfl⟩ := Option.map_eq_some_iff.mp read
      rw [decodeLossyFrom, if_pos accepted, if_pos last, ← ih others]
  | case7 p b bs accepted more ih =>
      rw [decodeLossyFrom, if_pos accepted, if_neg more, ← ih read]
  | _ => cases read

/-- What was written as the octets of a text is read as that text. -/
@[simp] theorem decodeLossy_encodeString (s : String) : decodeLossy (encodeString s) = s := by
  rw [decodeLossy, encodeString, decodeLossyFrom_of_decodeFrom (decode?_encode s.toList),
    String.ofList_toList]

/-- Different texts have different octets. -/
theorem encode_injective {a b : List Char} (h : encode a = encode b) : a = b := by
  have ha := decode?_encode a
  rw [h, decode?_encode b] at ha
  exact (Option.some.inj ha).symm

/-- The zero octet is the zero character. -/
theorem zero_cons_encode (cs : List Char) : 0 :: encode cs = encode ('\x00' :: cs) :=
  rfl

/-! ## What the reader takes -/

theorem continuation_eq {n : Nat} {b : UInt8} (h : 0x80 + n % 64 = b.toNat) :
    continuation n = b := by
  rw [← UInt8.toNat_inj, toNat_continuation, h]

/-- An octet that is owed comes, and lies within its bounds. -/
theorem decodeFrom_pending_inv {p : Pending} {bs : List UInt8} {cs : List Char}
    (read : decodeFrom (some p) bs = some cs) :
    ∃ b rest, bs = b :: rest ∧ p.low.toNat ≤ b.toNat ∧ b.toNat ≤ p.high.toNat ∧
      (if p.owed ≤ 1 then (decodeFrom none rest).map (Char.ofNat (p.extend b) :: ·)
        else decodeFrom (some (p.next b)) rest) = some cs := by
  cases bs with
  | nil => cases read
  | cons b rest =>
      rw [decodeFrom] at read
      split at read
      · next accepted =>
        simp only [Pending.accepts, Bool.and_eq_true, decide_eq_true_eq,
          UInt8.le_iff_toNat_le] at accepted
        exact ⟨b, rest, rfl, accepted.1, accepted.2, read⟩
      · cases read

/-- An octet that is owed and not the last. -/
theorem decodeFrom_owed_inv {p : Pending} {bs : List UInt8} {cs : List Char} (owed : 1 < p.owed)
    (read : decodeFrom (some p) bs = some cs) :
    ∃ b rest, bs = b :: rest ∧ p.low.toNat ≤ b.toNat ∧ b.toNat ≤ p.high.toNat ∧
      decodeFrom (some ⟨p.owed - 1, 0x80, 0xBF, 64 * p.value + b.toNat % 64⟩) rest = some cs := by
  obtain ⟨b, rest, rfl, low, high, read⟩ := decodeFrom_pending_inv read
  rw [if_neg (Nat.not_le.mpr owed)] at read
  exact ⟨b, rest, rfl, low, high, read⟩

/-- The last octet that is owed, and the character that it ends. -/
theorem decodeFrom_last_inv {p : Pending} {bs : List UInt8} {cs : List Char} (owed : p.owed ≤ 1)
    (read : decodeFrom (some p) bs = some cs) :
    ∃ b rest cs', bs = b :: rest ∧ p.low.toNat ≤ b.toNat ∧ b.toNat ≤ p.high.toNat ∧
      decodeFrom none rest = some cs' ∧
      cs = Char.ofNat (64 * p.value + b.toNat % 64) :: cs' := by
  obtain ⟨b, rest, rfl, low, high, read⟩ := decodeFrom_pending_inv read
  rw [if_pos owed] at read
  obtain ⟨cs', others, rfl⟩ := Option.map_eq_some_iff.mp read
  exact ⟨b, rest, cs', rfl, low, high, others, rfl⟩

theorem toNat_ofNat_of_bounds {n : Nat} (h : n < 0xD800 ∨ 0xE000 ≤ n ∧ n < 0x110000) :
    (Char.ofNat n).toNat = n := by
  have valid : n.isValidChar := by
    rcases h with low | ⟨high, top⟩
    · exact .inl low
    · exact .inr ⟨by omega, top⟩
  rw [Char.ofNat, dif_pos valid]
  rfl

/-- The value of a character given by octets of one length and no shorter. -/
theorem encodeChar_ofNat {n : Nat} (h : n < 0xD800 ∨ 0xE000 ≤ n ∧ n < 0x110000) :
    encodeChar (Char.ofNat n) =
      if n < 0x80 then [UInt8.ofNat n]
      else if n < 0x800 then [UInt8.ofNat (0xC0 + n / 64), continuation n]
      else if n < 0x10000 then
        [UInt8.ofNat (0xE0 + n / 4096), continuation (n / 64), continuation n]
      else
        [UInt8.ofNat (0xF0 + n / 262144), continuation (n / 4096), continuation (n / 64),
          continuation n] := by
  rw [encodeChar, toNat_ofNat_of_bounds h]

/-- An octet that is a character of its own. -/
theorem encodeChar_of_lead_whole {b : UInt8} {c : Char} (whole : lead b = .whole c) :
    encodeChar c = [b] := by
  by_cases small : b < 0x80
  · rw [lead, if_pos small] at whole
    cases whole
    have low : b.toNat < 0x80 := UInt8.lt_iff_toNat_lt.mp small
    rw [encodeChar_ofNat (by omega), if_pos low, UInt8.ofNat_toNat]
  · rw [lead, if_neg small] at whole
    grind

theorem ofNat_eq {n : Nat} {b : UInt8} (h : n = b.toNat) : UInt8.ofNat n = b := by
  rw [h, UInt8.ofNat_toNat]

theorem encodeChar_double {b c : UInt8} (low : 0xC2 ≤ b.toNat) (high : b.toNat < 0xE0)
    (lower : 0x80 ≤ c.toNat) (upper : c.toNat ≤ 0xBF) :
    encodeChar (Char.ofNat (64 * (b.toNat - 0xC0) + c.toNat % 64)) = [b, c] := by
  rw [encodeChar_ofNat (by omega), if_neg (by omega), if_pos (by omega), @ofNat_eq _ b (by omega),
    @continuation_eq _ c (by omega)]

theorem encodeChar_triple {b c d : UInt8} (low : 0xE0 ≤ b.toNat) (high : b.toNat < 0xF0)
    (lower : 0x80 ≤ c.toNat) (upper : c.toNat ≤ 0xBF) (short : b.toNat = 0xE0 → 0xA0 ≤ c.toNat)
    (half : b.toNat = 0xED → c.toNat ≤ 0x9F) (lower' : 0x80 ≤ d.toNat) (upper' : d.toNat ≤ 0xBF) :
    encodeChar (Char.ofNat (64 * (64 * (b.toNat - 0xE0) + c.toNat % 64) + d.toNat % 64)) =
      [b, c, d] := by
  rw [encodeChar_ofNat (by omega), if_neg (by omega), if_neg (by omega), if_pos (by omega),
    @ofNat_eq _ b (by omega), @continuation_eq _ c (by omega), @continuation_eq _ d (by omega)]

theorem encodeChar_quadruple {b c d e : UInt8} (low : 0xF0 ≤ b.toNat) (high : b.toNat ≤ 0xF4)
    (lower : 0x80 ≤ c.toNat) (upper : c.toNat ≤ 0xBF) (short : b.toNat = 0xF0 → 0x90 ≤ c.toNat)
    (top : b.toNat = 0xF4 → c.toNat ≤ 0x8F) (lower' : 0x80 ≤ d.toNat) (upper' : d.toNat ≤ 0xBF)
    (lower'' : 0x80 ≤ e.toNat) (upper'' : e.toNat ≤ 0xBF) :
    encodeChar (Char.ofNat (64 * (64 * (64 * (b.toNat - 0xF0) + c.toNat % 64) + d.toNat % 64) +
      e.toNat % 64)) = [b, c, d, e] := by
  rw [encodeChar_ofNat (by omega), if_neg (by omega), if_neg (by omega), if_neg (by omega),
    @ofNat_eq _ b (by omega), @continuation_eq _ c (by omega), @continuation_eq _ d (by omega),
    @continuation_eq _ e (by omega)]

/-- What an octet promises that begins a longer character: how many octets more, and bounds of the
first of them that keep out what is written shorter and what is no character. -/
theorem lead_eq_owes {b : UInt8} {p : Pending} (owes : lead b = .owes p) :
    0x80 ≤ p.low.toNat ∧ p.high.toNat ≤ 0xBF ∧
      ((p.owed = 1 ∧ p.value = b.toNat - 0xC0 ∧ 0xC2 ≤ b.toNat ∧ b.toNat < 0xE0) ∨
        (p.owed = 2 ∧ p.value = b.toNat - 0xE0 ∧ 0xE0 ≤ b.toNat ∧ b.toNat < 0xF0 ∧
          (b.toNat = 0xE0 → 0xA0 ≤ p.low.toNat) ∧ (b.toNat = 0xED → p.high.toNat ≤ 0x9F)) ∨
        (p.owed = 3 ∧ p.value = b.toNat - 0xF0 ∧ 0xF0 ≤ b.toNat ∧ b.toNat ≤ 0xF4 ∧
          (b.toNat = 0xF0 → 0x90 ≤ p.low.toNat) ∧ (b.toNat = 0xF4 → p.high.toNat ≤ 0x8F))) := by
  simp only [lead, UInt8.lt_iff_toNat_lt, beq_iff_eq, ← UInt8.toNat_inj, UInt8.reduceToNat] at owes
  repeat' split at owes
  all_goals cases owes
  all_goals simp
  all_goals omega

/-- The strict reader takes octets only for the characters whose octets they are. -/
theorem eq_encode_of_decodeFrom {bs : List UInt8} {cs : List Char}
    (read : decodeFrom none bs = some cs) : bs = encode cs := by
  induction hl : bs.length using Nat.strongRecOn generalizing bs cs with
  | ind length ih =>
      subst hl
      cases bs with
      | nil =>
          cases read
          rfl
      | cons b bs =>
          rw [decodeFrom] at read
          split at read
          · next c whole =>
            obtain ⟨others, rest, rfl⟩ := Option.map_eq_some_iff.mp read
            rw [encode_cons, ← ih bs.length (by simp) rest rfl, encodeChar_of_lead_whole whole]
            rfl
          · next p owes =>
            obtain ⟨lower, upper, double | triple | quadruple⟩ := lead_eq_owes owes
            · obtain ⟨owed, value, low, high⟩ := double
              obtain ⟨c, bs, cs, rfl, low', high', rest, rfl⟩ :=
                decodeFrom_last_inv (by omega) read
              rw [encode_cons, ← ih bs.length (by simp only [List.length_cons]; omega) rest rfl,
                value, encodeChar_double low high (by omega) (by omega)]
              rfl
            · obtain ⟨owed, value, low, high, short, half⟩ := triple
              obtain ⟨c, bs, rfl, low', high', read⟩ := decodeFrom_owed_inv (by omega) read
              obtain ⟨d, bs, cs, rfl, low'', high'', rest, rfl⟩ :=
                decodeFrom_last_inv (by simp only; omega) read
              simp only [UInt8.reduceToNat] at low'' high''
              rw [encode_cons, ← ih bs.length (by simp only [List.length_cons]; omega) rest rfl,
                value, encodeChar_triple low high (by omega) (by omega) (by omega) (by omega) low''
                  high'']
              rfl
            · obtain ⟨owed, value, low, high, short, top⟩ := quadruple
              obtain ⟨c, bs, rfl, low', high', read⟩ := decodeFrom_owed_inv (by omega) read
              obtain ⟨d, bs, rfl, low'', high'', read⟩ :=
                decodeFrom_owed_inv (by simp only; omega) read
              obtain ⟨e, bs, cs, rfl, low3, high3, rest, rfl⟩ :=
                decodeFrom_last_inv (by simp only; omega) read
              simp only [UInt8.reduceToNat] at low'' high'' low3 high3
              rw [encode_cons, ← ih bs.length (by simp only [List.length_cons]; omega) rest rfl,
                value, encodeChar_quadruple low high (by omega) (by omega) (by omega) (by omega)
                  low'' high'' low3 high3]
              rfl
          · cases read

/-- Octets are the octets of a text exactly if the strict reader reads that text. -/
theorem decode?_eq_some_iff {bs : List UInt8} {cs : List Char} :
    decode? bs = some cs ↔ bs = encode cs :=
  ⟨eq_encode_of_decodeFrom, fun same => same ▸ decode?_encode cs⟩

theorem encodeChar_of_le {c : Char} (high : 0x10000 ≤ c.toNat) :
    encodeChar c = [UInt8.ofNat (0xF0 + c.toNat / 262144), continuation (c.toNat / 4096),
      continuation (c.toNat / 64), continuation c.toNat] := by
  simp only [encodeChar]
  rw [if_neg (by omega), if_neg (by omega), if_neg (by omega)]

/-- Only these characters have four octets. -/
theorem le_of_length_encodeChar {c : Char} (four : (encodeChar c).length = 4) :
    0x10000 ≤ c.toNat := by
  refine Nat.le_of_not_lt fun low => ?_
  simp only [encodeChar, if_pos low] at four
  split at four
  · cases four
  · split at four <;> cases four

/-- The characters that stand for halves have octets of their own. -/
theorem isHalf_iff_encodeChar {c : Char} :
    isHalf c ↔ ∃ third fourth, encodeChar c = [0xF4, 0x8D, third, fourth] ∧ 0xA0 ≤ third := by
  have bounds := toNat_bounds c
  rw [isHalf, Bool.and_eq_true, decide_eq_true_eq, decide_eq_true_eq]
  constructor
  · rintro ⟨low, high⟩
    have first : UInt8.ofNat (0xF0 + c.toNat / 262144) = 0xF4 := ofNat_eq (by
      simp only [UInt8.reduceToNat]
      omega)
    have second : continuation (c.toNat / 4096) = 0x8D := continuation_eq (by
      simp only [UInt8.reduceToNat]
      omega)
    refine ⟨_, _, by rw [encodeChar_of_le (by omega), first, second], ?_⟩
    simp only [UInt8.le_iff_toNat_le, toNat_continuation, UInt8.reduceToNat]
    omega
  · rintro ⟨third, fourth, octets, least⟩
    have high := le_of_length_encodeChar (by rw [octets]; rfl)
    rw [encodeChar_of_le high] at octets
    obtain ⟨first, rest⟩ := List.cons.inj octets
    obtain ⟨second, rest⟩ := List.cons.inj rest
    have first := congrArg UInt8.toNat first
    have second := congrArg UInt8.toNat second
    have third := congrArg UInt8.toNat (List.cons.inj rest).1
    rw [toNat_octet (by omega)] at first
    simp only [toNat_continuation, UInt8.reduceToNat] at first second third
    simp only [UInt8.le_iff_toNat_le, UInt8.reduceToNat] at least
    omega

/-- Octets in which F4 8D is never followed by A0 or more spell none of these characters. -/
theorem not_isHalf_of_decode? {bs : List UInt8} {cs : List Char} (read : decode? bs = some cs)
    (apart : ∀ third, 0xA0 ≤ third → ¬ [0xF4, 0x8D, third] <:+: bs) :
    ∀ c ∈ cs, isHalf c = false := by
  intro c hc
  rw [Bool.eq_false_iff]
  intro half
  obtain ⟨third, fourth, octets, least⟩ := isHalf_iff_encodeChar.mp half
  obtain ⟨before, after, rfl⟩ := List.append_of_mem hc
  refine apart third least ⟨encode before, fourth :: encode after, ?_⟩
  rw [decode?_eq_some_iff.mp read, encode, encode, encode, List.flatMap_append, List.flatMap_cons,
    octets]
  simp

end ScriptVet.Text.Utf8
