import Mathlib.Data.List.Basic
import Mathlib.Tactic.ByContra

/-!
# Decoding text from bytes

The decoder of the encoding standard for UTF-8, in the mode that does not throw: a longest run of
bytes that begins a character without completing it is read as one replacement character, and a
byte order mark at the beginning is dropped.  `decode` gives the text; `alterations` tells what the
text does not keep, and a text with its alterations determines the bytes (`decode_injective`).
-/

namespace OpnetNode

namespace TextDecoder

/-! ### Sequences of bytes that encode a character -/

/-- The number of bytes of a character, by its first byte; 0 if no character begins with it. -/
def sequenceLength (lead : UInt8) : ℕ :=
  if lead.toNat ≤ 0x7F then 1
  else if 0xC2 ≤ lead.toNat ∧ lead.toNat ≤ 0xDF then 2
  else if 0xE0 ≤ lead.toNat ∧ lead.toNat ≤ 0xEF then 3
  else if 0xF0 ≤ lead.toNat ∧ lead.toNat ≤ 0xF4 then 4
  else 0

/-- The least byte that may follow the bytes seen. -/
def lowerBoundary (seen : List UInt8) : ℕ :=
  if seen = [0xE0] then 0xA0 else if seen = [0xF0] then 0x90 else 0x80

/-- The greatest byte that may follow the bytes seen. -/
def upperBoundary (seen : List UInt8) : ℕ :=
  if seen = [0xED] then 0x9F else if seen = [0xF4] then 0x8F else 0xBF

/-- Whether a byte goes on with the bytes seen. -/
def continues (seen : List UInt8) (b : UInt8) : Bool :=
  lowerBoundary seen ≤ b.toNat && b.toNat ≤ upperBoundary seen

/-- The length of the character that the bytes begin. -/
def expected (seen : List UInt8) : ℕ := sequenceLength (seen.headD 0xFF)

/-- The code point that a complete sequence encodes. -/
def codePoint : List UInt8 → ℕ
  | [a] => a.toNat
  | [a, b] => (a.toNat - 0xC0) * 64 + (b.toNat - 0x80)
  | [a, b, c] => ((a.toNat - 0xE0) * 64 + (b.toNat - 0x80)) * 64 + (c.toNat - 0x80)
  | [a, b, c, d] =>
    (((a.toNat - 0xF0) * 64 + (b.toNat - 0x80)) * 64 + (c.toNat - 0x80)) * 64 + (d.toNat - 0x80)
  | _ => 0xFFFD

/-! ### The decoder -/

/-- What the decoder reads: the bytes of a character, or bytes that encode none. -/
inductive Decoded
  | character (bytes : List UInt8)
  | malformed (bytes : List UInt8)
  deriving DecidableEq

namespace Decoded

/-- The bytes read. -/
def bytes : Decoded → List UInt8
  | character bytes => bytes
  | malformed bytes => bytes

/-- The character put out. -/
def char : Decoded → Char
  | character bytes => Char.ofNat (codePoint bytes)
  | malformed _ => Char.ofNat 0xFFFD

end Decoded

/-- Take up bytes that begin a character, or none: what is put out, and what is still pending. -/
def push (seen : List UInt8) : List Decoded × List UInt8 :=
  if expected seen = 0 then ([.malformed seen], [])
  else if seen.length = expected seen then ([.character seen], [])
  else ([], seen)

/-- Read one byte.  A byte that does not go on with the pending ones is read again by itself. -/
def handler (pending : List UInt8) (b : UInt8) : List Decoded × List UInt8 :=
  if pending = [] then push [b]
  else if continues pending b then push (pending ++ [b])
  else (.malformed pending :: (push [b]).1, (push [b]).2)

/-- Read all bytes.  What is pending at the end encodes no character. -/
def decodeFrom : List UInt8 → List UInt8 → List Decoded
  | [], [] => []
  | pending, [] => [.malformed pending]
  | pending, b :: rest =>
    (handler pending b).1 ++ decodeFrom (handler pending b).2 rest

def byteOrderMark : Decoded := .character [0xEF, 0xBB, 0xBF]

def dropByteOrderMark : List Decoded → List Decoded
  | [] => []
  | d :: rest => if d = byteOrderMark then rest else d :: rest

variable {read : List Decoded}

theorem dropByteOrderMark_eq (h : read.head? ≠ some byteOrderMark) :
    dropByteOrderMark read = read := by
  cases read with
  | nil => rfl
  | cons d rest => exact if_neg (by simpa using h)

/-- The text of some bytes. -/
def decode (bytes : List UInt8) : List Char :=
  (dropByteOrderMark (decodeFrom [] bytes)).map Decoded.char

def encode (text : List Char) : List UInt8 := text.flatMap String.utf8EncodeChar

/-! ### What the text does not keep -/

/-- The malformed bytes, each run with its offset. -/
def malformedFrom : ℕ → List Decoded → List (ℕ × List UInt8)
  | _, [] => []
  | offset, .character bytes :: rest => malformedFrom (offset + bytes.length) rest
  | offset, .malformed bytes :: rest => (offset, bytes) :: malformedFrom (offset + bytes.length) rest

/-- What the decoder drops or replaces: whether there is a byte order mark at the beginning, and
the malformed bytes with their offsets. -/
def alterations (bytes : List UInt8) : Bool × List (ℕ × List UInt8) :=
  ((decodeFrom [] bytes).head? = some byteOrderMark, malformedFrom 0 (decodeFrom [] bytes))

/-! ### Well-formed sequences -/

/-- The bytes begin a character. -/
inductive Begins : List UInt8 → Prop
  | lead (a : UInt8) (h : 0 < sequenceLength a) : Begins [a]
  | snoc {seen : List UInt8} {b : UInt8} (hseen : Begins seen) (hlt : seen.length < expected seen)
      (h : continues seen b) : Begins (seen ++ [b])

/-- The bytes are those of a character. -/
def WellFormed (bytes : List UInt8) : Prop := Begins bytes ∧ bytes.length = expected bytes

variable {seen : List UInt8}

theorem Begins.ne_nil (h : Begins seen) : seen ≠ [] := by
  cases h <;> simp

theorem expected_append (h : seen ≠ []) (more : List UInt8) :
    expected (seen ++ more) = expected seen := by
  cases seen with
  | nil => exact absurd rfl h
  | cons a seen => rfl

variable {b : UInt8}

theorem begins_append_iff (seen : List UInt8) (hne : seen ≠ []) :
    Begins (seen ++ [b]) ↔ Begins seen ∧ seen.length < expected seen ∧ continues seen b := by
  constructor
  · intro h
    generalize hbytes : seen ++ [b] = bytes at h
    cases h with
    | lead a h =>
      have hlength := congrArg List.length hbytes
      have hpos := List.length_pos_of_ne_nil hne
      simp only [List.length_append, List.length_singleton] at hlength
      omega
    | snoc hseen hlt h =>
      obtain ⟨rfl, hb⟩ := List.append_inj' hbytes rfl
      obtain rfl : b = _ := by simpa using hb
      exact ⟨hseen, hlt, h⟩
  · rintro ⟨hseen, hlt, h⟩
    exact .snoc hseen hlt h

theorem Begins.length_le (h : Begins seen) : seen.length ≤ expected seen := by
  cases h with
  | lead a h => exact h
  | snoc hseen hlt _ =>
    rw [expected_append hseen.ne_nil]
    simp only [List.length_append, List.length_singleton]
    omega

theorem sequenceLength_le (a : UInt8) : sequenceLength a ≤ 4 := by
  unfold sequenceLength
  split_ifs <;> omega

variable {n : ℕ}

theorem toNat_ofNat (h : n < 0xD800 ∨ 0xDFFF < n ∧ n < 0x110000) : (Char.ofNat n).toNat = n := by
  have hvalid : n.isValidChar := h
  unfold Char.ofNat
  rw [dif_pos hvalid]
  rfl

theorem continues_iff :
    continues seen b ↔ lowerBoundary seen ≤ b.toNat ∧ b.toNat ≤ upperBoundary seen := by
  simp [continues]

variable {a c : UInt8} {more : List UInt8}

theorem continues_of_two_iff : continues (a :: b :: more) c ↔ 0x80 ≤ c.toNat ∧ c.toNat ≤ 0xBF := by
  rw [continues_iff]
  simp [lowerBoundary, upperBoundary]

/-- After the first byte the bounds leave out the overlong sequences, the surrogates, and what is
above the last code point. -/
theorem continues_lead_iff :
    continues [a] b ↔ 0x80 ≤ b.toNat ∧ b.toNat ≤ 0xBF ∧ (a.toNat = 0xE0 → 0xA0 ≤ b.toNat) ∧
      (a.toNat = 0xF0 → 0x90 ≤ b.toNat) ∧ (a.toNat = 0xED → b.toNat ≤ 0x9F) ∧
      (a.toNat = 0xF4 → b.toNat ≤ 0x8F) := by
  rw [continues_iff]
  have hlead : ∀ n : UInt8, [a] = [n] ↔ a.toNat = n.toNat := fun n => by
    rw [List.singleton_inj, UInt8.toNat_inj]
  simp only [lowerBoundary, upperBoundary, hlead, UInt8.reduceToNat]
  split_ifs <;> omega

theorem lead_bounds (a : UInt8) :
    (sequenceLength a = 1 → a.toNat ≤ 0x7F) ∧
      (sequenceLength a = 2 → 0xC2 ≤ a.toNat ∧ a.toNat ≤ 0xDF) ∧
      (sequenceLength a = 3 → 0xE0 ≤ a.toNat ∧ a.toNat ≤ 0xEF) ∧
      (sequenceLength a = 4 → 0xF0 ≤ a.toNat ∧ a.toNat ≤ 0xF4) := by
  unfold sequenceLength
  split_ifs <;> simp_all

theorem utf8EncodeChar_ofNat (h : n < 0xD800 ∨ 0xDFFF < n ∧ n < 0x110000) :
    String.utf8EncodeChar (Char.ofNat n) =
      if n ≤ 0x7F then [UInt8.ofNat n]
      else if n ≤ 0x7FF then [UInt8.ofNat (n / 64 % 0x20 + 0xC0), UInt8.ofNat (n % 0x40 + 0x80)]
      else if n ≤ 0xFFFF then
        [UInt8.ofNat (n / 4096 % 0x10 + 0xE0), UInt8.ofNat (n / 64 % 0x40 + 0x80),
          UInt8.ofNat (n % 0x40 + 0x80)]
      else
        [UInt8.ofNat (n / 262144 % 0x08 + 0xF0), UInt8.ofNat (n / 4096 % 0x40 + 0x80),
          UInt8.ofNat (n / 64 % 0x40 + 0x80), UInt8.ofNat (n % 0x40 + 0x80)] := by
  have hval : (Char.ofNat n).val.toNat = n := toNat_ofNat h
  unfold String.utf8EncodeChar
  rw [hval]

theorem ofNat_eq (h : n = b.toNat) : UInt8.ofNat n = b := by
  rw [h, UInt8.ofNat_toNat]

variable {bytes : List UInt8}

theorem encode_codePoint (h : WellFormed bytes) :
    String.utf8EncodeChar (Char.ofNat (codePoint bytes)) = bytes := by
  obtain ⟨hbegins, hlength⟩ := h
  -- one case for each number of bytes, which the first one determines
  match bytes with
  | [] => exact absurd rfl hbegins.ne_nil
  | [a] =>
    have ha := (lead_bounds a).1 hlength.symm
    have hvalid : a.toNat < 0xD800 ∨ 0xDFFF < a.toNat ∧ a.toNat < 0x110000 := by omega
    show String.utf8EncodeChar (Char.ofNat a.toNat) = [a]
    rw [utf8EncodeChar_ofNat hvalid, if_pos ha, UInt8.ofNat_toNat]
  | [a, b] =>
    obtain ⟨-, -, hb⟩ := (begins_append_iff [a] (by simp)).mp hbegins
    have hb := continues_lead_iff.mp hb
    have ha := (lead_bounds a).2.1 hlength.symm
    show String.utf8EncodeChar (Char.ofNat ((a.toNat - 0xC0) * 64 + (b.toNat - 0x80))) = [a, b]
    rw [utf8EncodeChar_ofNat (by omega), if_neg (by omega), if_pos (by omega)]
    rw [ofNat_eq (b := a) (by omega), ofNat_eq (b := b) (by omega)]
  | [a, b, c] =>
    obtain ⟨hab, -, hc⟩ := (begins_append_iff [a, b] (by simp)).mp hbegins
    obtain ⟨-, -, hb⟩ := (begins_append_iff [a] (by simp)).mp hab
    have hb := continues_lead_iff.mp hb
    have hc := continues_of_two_iff.mp hc
    have ha := (lead_bounds a).2.2.1 hlength.symm
    show String.utf8EncodeChar (Char.ofNat (_ * 64 + (c.toNat - 0x80))) = [a, b, c]
    rw [utf8EncodeChar_ofNat (by omega), if_neg (by omega), if_neg (by omega), if_pos (by omega)]
    rw [ofNat_eq (b := a) (by omega), ofNat_eq (b := b) (by omega), ofNat_eq (b := c) (by omega)]
  | [a, b, c, d] =>
    obtain ⟨habc, -, hd⟩ := (begins_append_iff [a, b, c] (by simp)).mp hbegins
    obtain ⟨hab, -, hc⟩ := (begins_append_iff [a, b] (by simp)).mp habc
    obtain ⟨-, -, hb⟩ := (begins_append_iff [a] (by simp)).mp hab
    have hb := continues_lead_iff.mp hb
    have hc := continues_of_two_iff.mp hc
    have hd := continues_of_two_iff.mp hd
    have ha := (lead_bounds a).2.2.2 hlength.symm
    show String.utf8EncodeChar (Char.ofNat (_ * 64 + (d.toNat - 0x80))) = [a, b, c, d]
    rw [utf8EncodeChar_ofNat (by omega), if_neg (by omega), if_neg (by omega), if_neg (by omega)]
    rw [ofNat_eq (b := a) (by omega), ofNat_eq (b := b) (by omega), ofNat_eq (b := c) (by omega),
      ofNat_eq (b := d) (by omega)]
  | a :: b :: c :: d :: e :: more =>
    have hle := sequenceLength_le a
    have hexpected : expected (a :: b :: c :: d :: e :: more) = sequenceLength a := rfl
    simp only [List.length_cons] at hlength
    omega

variable {more' : List UInt8}

theorem WellFormed.eq_of_append_eq {a b : List UInt8} (ha : WellFormed a)
    (hb : WellFormed b) (h : a ++ more = b ++ more') : a = b := by
  have hexpected : expected a = expected b := by
    rw [← expected_append ha.1.ne_nil more, h, expected_append hb.1.ne_nil]
  have hlength : a.length = b.length := by rw [ha.2, hb.2, hexpected]
  exact (List.append_inj h hlength).1

/-! ### What the decoder reads -/

/-- The bytes still pending begin a character, or there are none. -/
def Pending (pending : List UInt8) : Prop :=
  pending = [] ∨ Begins pending ∧ pending.length < expected pending

/-- Each character read is that of a complete sequence. -/
def Sound (read : List Decoded) : Prop := ∀ bytes, .character bytes ∈ read → WellFormed bytes

theorem push_spec (h : expected seen = 0 ∨ Begins seen) :
    (push seen).1.flatMap Decoded.bytes ++ (push seen).2 = seen ∧ Sound (push seen).1 ∧
      Pending (push seen).2 := by
  unfold push
  split_ifs with hnone hcomplete
  · refine ⟨by simp [Decoded.bytes], ?_, .inl rfl⟩
    intro bytes hmem
    simp at hmem
  · have hbegins : Begins seen := h.resolve_left hnone
    refine ⟨by simp [Decoded.bytes], ?_, .inl rfl⟩
    intro bytes hmem
    obtain rfl : bytes = seen := by simpa using hmem
    exact ⟨hbegins, hcomplete⟩
  · have hbegins : Begins seen := h.resolve_left hnone
    have hlt : seen.length < expected seen := Nat.lt_of_le_of_ne hbegins.length_le hcomplete
    refine ⟨rfl, ?_, .inr ⟨hbegins, hlt⟩⟩
    intro bytes hmem
    simp at hmem

theorem begins_singleton (b : UInt8) : expected [b] = 0 ∨ Begins [b] := by
  rcases Nat.eq_zero_or_pos (sequenceLength b) with hzero | hpos
  · exact .inl hzero
  · exact .inr (.lead b hpos)

theorem handler_spec {pending : List UInt8} (h : Pending pending) (b : UInt8) :
    (handler pending b).1.flatMap Decoded.bytes ++ (handler pending b).2 = pending ++ [b] ∧
      Sound (handler pending b).1 ∧ Pending (handler pending b).2 := by
  have hsingle := push_spec (begins_singleton b)
  unfold handler
  split_ifs with hempty hcontinues
  · rw [hempty]
    exact hsingle
  · obtain ⟨hbegins, hlt⟩ := h.resolve_left hempty
    exact push_spec (.inr (.snoc hbegins hlt hcontinues))
  · obtain ⟨hbytes, hsound, hpending⟩ := hsingle
    refine ⟨?_, ?_, hpending⟩
    · rw [List.flatMap_cons, List.append_assoc, hbytes]
      rfl
    · intro bytes hmem
      exact hsound bytes (by simpa using hmem)

theorem decodeFrom_spec (bytes : List UInt8) {pending : List UInt8} (h : Pending pending) :
    (decodeFrom pending bytes).flatMap Decoded.bytes = pending ++ bytes ∧
      Sound (decodeFrom pending bytes) := by
  induction bytes generalizing pending with
  | nil =>
    cases pending with
    | nil => exact ⟨rfl, fun bytes hmem => by simp [decodeFrom] at hmem⟩
    | cons a pending =>
      refine ⟨by simp [decodeFrom, Decoded.bytes], fun bytes hmem => ?_⟩
      simp [decodeFrom] at hmem
  | cons b rest ih =>
    obtain ⟨hbytes, hsound, hpending⟩ := handler_spec h b
    obtain ⟨hrest, hsoundRest⟩ := ih hpending
    have hstep : decodeFrom pending (b :: rest)
        = (handler pending b).1 ++ decodeFrom (handler pending b).2 rest := by
      cases pending <;> rfl
    rw [hstep]
    constructor
    · rw [List.flatMap_append, hrest, ← List.append_assoc, hbytes]
      simp
    · intro bytes hmem
      rcases List.mem_append.mp hmem with hmem | hmem
      · exact hsound bytes hmem
      · exact hsoundRest bytes hmem

theorem flatMap_decodeFrom (bytes : List UInt8) :
    (decodeFrom [] bytes).flatMap Decoded.bytes = bytes :=
  (decodeFrom_spec bytes (.inl rfl)).1

theorem sound_decodeFrom (bytes : List UInt8) : Sound (decodeFrom [] bytes) :=
  (decodeFrom_spec bytes (.inl rfl)).2

/-! ### The text with its alterations determines the bytes -/

/-- The bytes of the text of what is read. -/
def written (read : List Decoded) : List UInt8 :=
  read.flatMap fun d => String.utf8EncodeChar d.char

theorem encode_map_char (read : List Decoded) : encode (read.map Decoded.char) = written read := by
  unfold encode written
  rw [List.flatMap_map]

variable {offset : ℕ}

theorem le_of_mem_malformedFrom (h : (n, bytes) ∈ malformedFrom offset read) : offset ≤ n := by
  induction read generalizing offset with
  | nil => simp [malformedFrom] at h
  | cons d rest ih =>
    cases d with
    | character seen =>
      have hle := ih h
      omega
    | malformed seen =>
      rcases List.mem_cons.mp h with heq | hmem
      · simp only [Prod.mk.injEq] at heq
        omega
      · have hle := ih hmem
        omega

theorem malformedFrom_ne {a b : List UInt8} {read' : List Decoded} (ha : WellFormed a) :
    malformedFrom offset (.character a :: read) ≠ malformedFrom offset (.malformed b :: read') := by
  intro h
  have hmem : (offset, b) ∈ malformedFrom (offset + a.length) read := by
    show (offset, b) ∈ malformedFrom offset (.character a :: read)
    rw [h]
    exact List.mem_cons_self
  have hle := le_of_mem_malformedFrom hmem
  have hpos := List.length_pos_of_ne_nil ha.1.ne_nil
  omega

theorem Sound.tail {d : Decoded} (h : Sound (d :: read)) : Sound read :=
  fun bytes hmem => h bytes (List.mem_cons_of_mem d hmem)

/-- Bytes of one length, with the same malformed runs at the same offsets, are the same if their
texts are written with the same bytes, whatever follows these. -/
theorem read_eq_of_written_eq {read' : List Decoded} (hsound : Sound read) (hsound' : Sound read')
    (hlength : (read.flatMap Decoded.bytes).length = (read'.flatMap Decoded.bytes).length)
    (hmalformed : malformedFrom offset read = malformedFrom offset read')
    (h : written read ++ more = written read' ++ more') :
    read = read' ∧ more = more' := by
  induction read generalizing offset read' with
  | nil =>
    cases read' with
    | nil => exact ⟨rfl, h⟩
    | cons d rest =>
      cases d with
      | character b =>
        have hpos := List.length_pos_of_ne_nil (hsound' b List.mem_cons_self).1.ne_nil
        simp only [List.flatMap_nil, List.length_nil, List.flatMap_cons, Decoded.bytes,
          List.length_append] at hlength
        omega
      | malformed b => simp [malformedFrom] at hmalformed
  | cons d rest ih =>
    cases read' with
    | nil =>
      cases d with
      | character a =>
        have hpos := List.length_pos_of_ne_nil (hsound a List.mem_cons_self).1.ne_nil
        simp only [List.flatMap_nil, List.length_nil, List.flatMap_cons, Decoded.bytes,
          List.length_append] at hlength
        omega
      | malformed a => simp [malformedFrom] at hmalformed
    | cons d' rest' =>
      simp only [written, List.flatMap_cons, List.append_assoc] at h
      simp only [List.flatMap_cons, List.length_append] at hlength
      cases d with
      | character a =>
        have ha := hsound a List.mem_cons_self
        cases d' with
        | character b =>
          -- two characters: their bytes are a prefix code, so that they are the same
          have hb := hsound' b List.mem_cons_self
          simp only [Decoded.char, encode_codePoint ha, encode_codePoint hb] at h
          obtain rfl := ha.eq_of_append_eq hb h
          obtain ⟨hrest, hmore⟩ := ih hsound.tail hsound'.tail (Nat.add_left_cancel hlength)
            hmalformed (List.append_cancel_left h)
          exact ⟨by rw [hrest], hmore⟩
        -- only one of them has a malformed run at this offset
        | malformed b => exact absurd hmalformed (malformedFrom_ne ha)
      | malformed a =>
        cases d' with
        | character b =>
          exact absurd hmalformed.symm (malformedFrom_ne (hsound' b List.mem_cons_self))
        | malformed b =>
          simp only [malformedFrom, List.cons.injEq, Prod.mk.injEq, true_and] at hmalformed
          obtain ⟨rfl, hmalformed⟩ := hmalformed
          obtain ⟨hrest, hmore⟩ := ih hsound.tail hsound'.tail (Nat.add_left_cancel hlength)
            hmalformed (List.append_cancel_left h)
          exact ⟨by rw [hrest], hmore⟩

/-- **A text and its alterations determine the bytes**, also where more bytes follow the text. -/
theorem decode_injective {bytes' : List UInt8}
    (hlength : bytes.length = bytes'.length) (halterations : alterations bytes = alterations bytes')
    (h : encode (decode bytes) ++ more = encode (decode bytes') ++ more') :
    bytes = bytes' ∧ more = more' := by
  have hsound := sound_decodeFrom bytes
  have hsound' := sound_decodeFrom bytes'
  have hbytes := flatMap_decodeFrom bytes
  have hbytes' := flatMap_decodeFrom bytes'
  simp only [alterations, Prod.mk.injEq, decide_eq_decide] at halterations
  obtain ⟨hmark, hmalformed⟩ := halterations
  simp only [decode, encode_map_char] at h
  rw [← hbytes, ← hbytes'] at hlength
  suffices hread : decodeFrom [] bytes = decodeFrom [] bytes' ∧ more = more' by
    refine ⟨?_, hread.2⟩
    rw [← hbytes, ← hbytes', hread.1]
  generalize decodeFrom [] bytes = read at *
  generalize decodeFrom [] bytes' = read' at *
  by_cases hfirst : read.head? = some byteOrderMark
  · obtain ⟨rest, rfl⟩ : ∃ rest, read = byteOrderMark :: rest := by
      cases read with
      | nil => simp at hfirst
      | cons d rest => exact ⟨rest, by simpa using hfirst⟩
    obtain ⟨rest', rfl⟩ : ∃ rest', read' = byteOrderMark :: rest' := by
      cases read' with
      | nil => simp at hmark
      | cons d rest' => exact ⟨rest', by simpa using hmark⟩
    simp only [List.flatMap_cons, List.length_append] at hlength
    obtain ⟨hrest, hmore⟩ := read_eq_of_written_eq hsound.tail hsound'.tail
      (Nat.add_left_cancel hlength) hmalformed (by simpa [dropByteOrderMark] using h)
    exact ⟨by rw [hrest], hmore⟩
  · have hfirst' : read'.head? ≠ some byteOrderMark := fun hmark' => hfirst (hmark.mpr hmark')
    rw [dropByteOrderMark_eq hfirst, dropByteOrderMark_eq hfirst'] at h
    exact read_eq_of_written_eq hsound hsound' hlength hmalformed h

/-! ### Text that was encoded -/

theorem Begins.two (ha : 1 < sequenceLength a) (hb : continues [a] b) : Begins [a, b] :=
  .snoc (.lead a (by omega)) ha hb

theorem Begins.three (ha : 2 < sequenceLength a) (hb : continues [a] b)
    (hc : continues [a, b] c) : Begins [a, b, c] :=
  .snoc (.two (by omega) hb) ha hc

theorem Begins.four {d : UInt8} (ha : 3 < sequenceLength a) (hb : continues [a] b)
    (hc : continues [a, b] c) (hd : continues [a, b, c] d) : Begins [a, b, c, d] :=
  .snoc (.three (by omega) hb hc) ha hd

theorem sequenceLength_eq (a : UInt8) :
    (a.toNat ≤ 0x7F → sequenceLength a = 1) ∧
      (0xC2 ≤ a.toNat → a.toNat ≤ 0xDF → sequenceLength a = 2) ∧
      (0xE0 ≤ a.toNat → a.toNat ≤ 0xEF → sequenceLength a = 3) ∧
      (0xF0 ≤ a.toNat → a.toNat ≤ 0xF4 → sequenceLength a = 4) := by
  unfold sequenceLength
  split_ifs <;> omega

theorem toNat_ofNat_byte (h : n < 256) : (UInt8.ofNat n).toNat = n :=
  Nat.mod_eq_of_lt h

theorem utf8EncodeChar_spec (c : Char) :
    WellFormed (String.utf8EncodeChar c) ∧ codePoint (String.utf8EncodeChar c) = c.toNat := by
  have hvalid : c.toNat < 0xD800 ∨ 0xDFFF < c.toNat ∧ c.toNat < 0x110000 := c.valid
  rw [← Char.ofNat_toNat c, utf8EncodeChar_ofNat hvalid, Char.ofNat_toNat]
  generalize c.toNat = n at hvalid
  -- one case for each number of bytes
  split_ifs with h1 h2 h3
  · have ha := toNat_ofNat_byte (n := n) (by omega)
    generalize UInt8.ofNat n = a at ha
    have hlength := (sequenceLength_eq a).1 (by omega)
    exact ⟨⟨.lead a (by omega), hlength.symm⟩, ha⟩
  · have ha := toNat_ofNat_byte (n := n / 64 % 0x20 + 0xC0) (by omega)
    have hb := toNat_ofNat_byte (n := n % 0x40 + 0x80) (by omega)
    generalize UInt8.ofNat (n / 64 % 0x20 + 0xC0) = a at ha
    generalize UInt8.ofNat (n % 0x40 + 0x80) = b at hb
    have hlength := (sequenceLength_eq a).2.1 (by omega) (by omega)
    have hab : continues [a] b := continues_lead_iff.mpr (by omega)
    refine ⟨⟨.two (by omega) hab, hlength.symm⟩, ?_⟩
    show (a.toNat - 0xC0) * 64 + (b.toNat - 0x80) = n
    omega
  · have ha := toNat_ofNat_byte (n := n / 4096 % 0x10 + 0xE0) (by omega)
    have hb := toNat_ofNat_byte (n := n / 64 % 0x40 + 0x80) (by omega)
    have hc := toNat_ofNat_byte (n := n % 0x40 + 0x80) (by omega)
    generalize UInt8.ofNat (n / 4096 % 0x10 + 0xE0) = a at ha
    generalize UInt8.ofNat (n / 64 % 0x40 + 0x80) = b at hb
    generalize UInt8.ofNat (n % 0x40 + 0x80) = c at hc
    have hlength := (sequenceLength_eq a).2.2.1 (by omega) (by omega)
    have hab : continues [a] b := continues_lead_iff.mpr (by omega)
    have habc : continues [a, b] c := continues_of_two_iff.mpr (by omega)
    refine ⟨⟨.three (by omega) hab habc, hlength.symm⟩, ?_⟩
    show _ * 64 + (c.toNat - 0x80) = n
    omega
  · have ha := toNat_ofNat_byte (n := n / 262144 % 0x08 + 0xF0) (by omega)
    have hb := toNat_ofNat_byte (n := n / 4096 % 0x40 + 0x80) (by omega)
    have hc := toNat_ofNat_byte (n := n / 64 % 0x40 + 0x80) (by omega)
    have hd := toNat_ofNat_byte (n := n % 0x40 + 0x80) (by omega)
    generalize UInt8.ofNat (n / 262144 % 0x08 + 0xF0) = a at ha
    generalize UInt8.ofNat (n / 4096 % 0x40 + 0x80) = b at hb
    generalize UInt8.ofNat (n / 64 % 0x40 + 0x80) = c at hc
    generalize UInt8.ofNat (n % 0x40 + 0x80) = d at hd
    have hlength := (sequenceLength_eq a).2.2.2 (by omega) (by omega)
    have hab : continues [a] b := continues_lead_iff.mpr (by omega)
    have habc : continues [a, b] c := continues_of_two_iff.mpr (by omega)
    have habcd : continues [a, b, c] d := continues_of_two_iff.mpr (by omega)
    refine ⟨⟨.four (by omega) hab habc habcd, hlength.symm⟩, ?_⟩
    show _ * 64 + (d.toNat - 0x80) = n
    omega

theorem decodeFrom_append (h : Begins seen) (rest : List UInt8) :
    decodeFrom [] (seen ++ rest) = (push seen).1 ++ decodeFrom (push seen).2 rest := by
  induction h generalizing rest with
  | lead a h => rfl
  | @snoc seen b hseen hlt h ih =>
    have hpush : push seen = ([], seen) := by
      unfold push
      rw [if_neg (by omega), if_neg (by omega)]
    have hhandler : handler seen b = push (seen ++ [b]) := by
      unfold handler
      rw [if_neg hseen.ne_nil, if_pos h]
    have hstep : decodeFrom seen (b :: rest)
        = (handler seen b).1 ++ decodeFrom (handler seen b).2 rest := by
      cases seen <;> rfl
    rw [List.append_assoc, ih, hpush, List.nil_append, List.singleton_append, hstep, hhandler]

theorem decodeFrom_encode (text : List Char) :
    decodeFrom [] (encode text) = text.map fun c => .character (String.utf8EncodeChar c) := by
  induction text with
  | nil => rfl
  | cons c text ih =>
    obtain ⟨⟨hbegins, hlength⟩, -⟩ := utf8EncodeChar_spec c
    have hpos := List.length_pos_of_ne_nil hbegins.ne_nil
    have hpush : push (String.utf8EncodeChar c) = ([.character (String.utf8EncodeChar c)], []) := by
      unfold push
      rw [if_neg (by omega), if_pos hlength]
    show decodeFrom [] (String.utf8EncodeChar c ++ encode text) = _
    rw [decodeFrom_append hbegins, hpush, ih]
    rfl

theorem malformedFrom_characters (offset : ℕ) (bytes : List (List UInt8)) :
    malformedFrom offset (bytes.map .character) = [] := by
  induction bytes generalizing offset with
  | nil => rfl
  | cons a bytes ih => exact ih _

/-- The byte order mark. -/
def markCharacter : Char := Char.ofNat 0xFEFF

theorem utf8EncodeChar_eq_mark {c : Char} :
    Decoded.character (String.utf8EncodeChar c) = byteOrderMark ↔ c = markCharacter := by
  constructor
  · intro h
    have hbytes : String.utf8EncodeChar c = [0xEF, 0xBB, 0xBF] := Decoded.character.inj h
    have hcode := (utf8EncodeChar_spec c).2
    rw [hbytes] at hcode
    rw [← Char.ofNat_toNat c, ← hcode]
    rfl
  · rintro rfl
    rfl

/-- **Decoding what was encoded** gives the text, but for a byte order mark at its beginning. -/
theorem decode_encode {text : List Char} (h : text.head? ≠ some markCharacter) :
    decode (encode text) = text := by
  have hchar : ∀ c, Decoded.char (.character (String.utf8EncodeChar c)) = c := by
    intro c
    show Char.ofNat _ = c
    rw [(utf8EncodeChar_spec c).2, Char.ofNat_toNat]
  unfold decode
  rw [decodeFrom_encode]
  cases text with
  | nil => rfl
  | cons c text =>
    have hc : c ≠ markCharacter := by simpa using h
    rw [List.map_cons, dropByteOrderMark, if_neg (fun hmark => hc (utf8EncodeChar_eq_mark.mp hmark))]
    simp only [List.map_cons, List.map_map, Function.comp_def, hchar, List.map_id']

theorem decode_encode_mark (text : List Char) :
    decode (encode (markCharacter :: text)) = (decodeFrom [] (encode text)).map Decoded.char := by
  unfold decode
  rw [decodeFrom_encode, decodeFrom_encode, List.map_cons, utf8EncodeChar_eq_mark.mpr rfl]
  rfl

theorem written_eq (hsound : Sound read) (hmalformed : malformedFrom offset read = []) :
    written read = read.flatMap Decoded.bytes := by
  induction read generalizing offset with
  | nil => rfl
  | cons d rest ih =>
    cases d with
    | character a =>
      have hrest := ih hsound.tail hmalformed
      have ha := encode_codePoint (hsound a List.mem_cons_self)
      show String.utf8EncodeChar (Char.ofNat (codePoint a)) ++ written rest
        = a ++ rest.flatMap Decoded.bytes
      rw [ha, hrest]
    | malformed a => simp [malformedFrom] at hmalformed

/-- **The text has the same bytes** exactly if the decoder alters nothing. -/
theorem encode_decode_iff : encode (decode bytes) = bytes ↔ alterations bytes = (false, []) := by
  constructor
  · intro h
    generalize htext : decode bytes = text at h
    subst h
    have hmark : text.head? ≠ some markCharacter := by
      intro hfirst
      obtain ⟨rest, rfl⟩ : ∃ rest, text = markCharacter :: rest := by
        cases text with
        | nil => simp at hfirst
        | cons c rest => exact ⟨rest, by simpa using hfirst⟩
      have hlength := congrArg List.length htext
      rw [decode_encode_mark, decodeFrom_encode] at hlength
      simp at hlength
    unfold alterations
    rw [decodeFrom_encode, Prod.mk.injEq]
    constructor
    · rw [decide_eq_false_iff_not]
      intro hfirst
      apply hmark
      cases text with
      | nil => simp at hfirst
      | cons c rest =>
        have hc : Decoded.character (String.utf8EncodeChar c) = byteOrderMark := by
          simpa using hfirst
        rw [List.head?_cons, utf8EncodeChar_eq_mark.mp hc]
    · rw [← Function.comp_def Decoded.character, ← List.map_map]
      exact malformedFrom_characters 0 _
  · intro h
    simp only [alterations, Prod.mk.injEq, decide_eq_false_iff_not] at h
    obtain ⟨hmark, hmalformed⟩ := h
    have hbytes := flatMap_decodeFrom bytes
    have hsound := sound_decodeFrom bytes
    unfold decode
    rw [dropByteOrderMark_eq hmark, encode_map_char, written_eq hsound hmalformed, hbytes]

/-! ### The length of the text -/

theorem length_push (seen : List UInt8) :
    (push seen).1.length + min 1 (push seen).2.length ≤ 1 := by
  unfold push
  split_ifs
  · simp
  · simp
  · exact Nat.le_trans (Nat.le_of_eq (Nat.zero_add _)) (Nat.min_le_left _ _)

theorem length_handler (pending : List UInt8) (b : UInt8) :
    (handler pending b).1.length + min 1 (handler pending b).2.length
      ≤ 1 + min 1 pending.length := by
  have hsingle := length_push [b]
  have hmore := length_push (pending ++ [b])
  unfold handler
  split_ifs with hempty hcontinues
  · omega
  · omega
  · have hpos := List.length_pos_of_ne_nil hempty
    simp only [List.length_cons]
    omega

theorem length_decodeFrom (pending bytes : List UInt8) :
    (decodeFrom pending bytes).length ≤ bytes.length + min 1 pending.length := by
  induction bytes generalizing pending with
  | nil => cases pending <;> simp [decodeFrom]
  | cons b rest ih =>
    have hstep : decodeFrom pending (b :: rest)
        = (handler pending b).1 ++ decodeFrom (handler pending b).2 rest := by
      cases pending <;> rfl
    have hhandler := length_handler pending b
    have hrest := ih (handler pending b).2
    rw [hstep, List.length_append, List.length_cons]
    omega

theorem length_encode (text : List Char) : (encode text).length ≤ 4 * text.length := by
  induction text with
  | nil => simp [encode]
  | cons c text ih =>
    have hc := Char.utf8Size_le_four c
    show (String.utf8EncodeChar c ++ encode text).length ≤ _
    rw [List.length_append, String.length_utf8EncodeChar, List.length_cons]
    omega

theorem length_dropByteOrderMark (read : List Decoded) :
    (dropByteOrderMark read).length ≤ read.length := by
  cases read with
  | nil => exact Nat.le_refl 0
  | cons d rest =>
    rw [dropByteOrderMark]
    split_ifs <;> simp

theorem length_encode_decode (bytes : List UInt8) :
    (encode (decode bytes)).length ≤ 4 * bytes.length := by
  have hencode := length_encode (decode bytes)
  have hdrop := length_dropByteOrderMark (decodeFrom [] bytes)
  have hread := length_decodeFrom [] bytes
  unfold decode at hencode ⊢
  simp only [List.length_map, List.length_nil] at hencode hread
  omega

end TextDecoder

end OpnetNode
