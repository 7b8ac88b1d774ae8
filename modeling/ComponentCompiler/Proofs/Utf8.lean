import Mathlib
import ComponentCompiler.Text.Utf8

/-!
Octets read as text, gaps included.

An ASCII octet is read as its own character and ends what was begun before it, so reading goes piece by piece between
ASCII octets (`readFrom_append_ascii`). What was begun is never an ASCII character (`Pending.IsSound`): a character of
one octet is read from that octet only (`mem_of_mem_readFrom`).
-/

namespace ComponentCompiler.Text.Utf8

/-! ## What is pending -/

/-- the next octet of a character is not an ASCII octet, and its value will not be that of one -/
structure Pending.IsSound (p : Pending) : Prop where
  tail : 0x80 ≤ p.low
  last : p.due ≤ 1 → 2 ≤ p.value
  next : 2 ≤ p.value * 64 + (p.low - 0x80)

/-- nothing is pending, or something sound -/
def IsSound (state : Option Pending) : Prop :=
  ∀ p, state = some p → p.IsSound

theorem isSound_none : IsSound none := fun _ h => by cases h

theorem isSound_lead {octet : UInt8} {p : Pending} (h : lead octet = .part p) : p.IsSound := by
  unfold lead at h
  simp only [Bool.and_eq_true, decide_eq_true_eq, beq_iff_eq] at h
  split_ifs at h <;> obtain rfl := Lead.part.inj h <;> constructor <;> simp only [] <;> omega

theorem isSound_start (octet : UInt8) : IsSound (start octet).2 := by
  unfold start
  split
  · exact isSound_none
  · next p hlead => exact fun _ h => Option.some.inj h ▸ isSound_lead hlead
  · exact isSound_none

theorem isSound_step {state : Option Pending} (h : IsSound state) (octet : UInt8) : IsSound (step state octet).2 := by
  cases state with
  | none => exact isSound_start octet
  | some p =>
    obtain ⟨htail, hlast, hnext⟩ := h p rfl
    unfold step
    simp only [Bool.and_eq_true, decide_eq_true_eq]
    split_ifs with hrange hdue
    · exact isSound_none
    · rintro _ ⟨⟩
      constructor <;> simp only [] <;> omega
    · exact isSound_start octet

/-! ## Reading piece by piece -/

theorem lead_of_ascii {octet : UInt8} (h : octet.toNat < 0x80) : lead octet = .whole (Char.ofNat octet.toNat) := by
  simp [lead, h]

theorem readFrom_append_ascii {state : Option Pending} (hstate : IsSound state) (a : List UInt8) {octet : UInt8}
    (h : octet.toNat < 0x80) (b : List UInt8) :
    readFrom state (a ++ octet :: b) = readFrom state a ++ some (Char.ofNat octet.toNat) :: readFrom none b := by
  induction a generalizing state with
  | nil =>
    have hstart : start octet = ([some (Char.ofNat octet.toNat)], none) := by rw [start, lead_of_ascii h]
    cases state with
    | none => simp [readFrom, step, hstart]
    | some p =>
      have htail := (hstate p rfl).tail
      have hstep : step (some p) octet = ([none, some (Char.ofNat octet.toNat)], none) := by
        simp only [step, Bool.and_eq_true, decide_eq_true_eq, hstart]
        rw [if_neg (by omega)]
      simp [readFrom, hstep]
  | cons first a ih =>
    rw [List.cons_append, readFrom, readFrom, ih (isSound_step hstate first), List.append_assoc]

/-- something pending comes out at last, if only as a gap -/
theorem readFrom_pending_ne_nil (p : Pending) (octets : List UInt8) : readFrom (some p) octets ≠ [] := by
  induction octets generalizing p with
  | nil => simp [readFrom]
  | cons octet rest ih =>
    rw [readFrom]
    unfold step
    dsimp only
    split_ifs
    · simp
    · simpa using ih _
    · simp

theorem readFrom_ne_nil {octets : List UInt8} (h : octets ≠ []) : readFrom none octets ≠ [] := by
  obtain ⟨octet, rest, rfl⟩ := List.exists_cons_of_ne_nil h
  rw [readFrom, step, start]
  split
  · simp
  · simpa using readFrom_pending_ne_nil _ rest
  · simp

/-! ## ASCII characters -/

theorem eq_of_lead_whole {octet : UInt8} {c : Char} (h : lead octet = .whole c) : c = Char.ofNat octet.toNat := by
  unfold lead at h
  simp only [Bool.and_eq_true, decide_eq_true_eq, beq_iff_eq] at h
  split_ifs at h
  exact (Lead.whole.inj h).symm

theorem eq_of_mem_start {octet : UInt8} {c : Char} (h : some c ∈ (start octet).1) : c = Char.ofNat octet.toNat := by
  unfold start at h
  split at h
  · next whole hlead =>
    obtain rfl : c = whole := by simpa using h
    exact eq_of_lead_whole hlead
  · simp at h
  · simp at h

/-- an ASCII character comes out for its own octet only -/
theorem mem_step {state : Option Pending} (h : IsSound state) {octet : UInt8} {c : Char}
    (hc : some c ∈ (step state octet).1) (hascii : c.toNat < 128) (hnul : c.toNat ≠ 0) : octet.toNat = c.toNat := by
  have hstart : some c ∈ (start octet).1 → octet.toNat = c.toNat := by
    intro hc
    rw [eq_of_mem_start hc, Char.toNat_ofNat] at hnul ⊢
    split_ifs at hnul ⊢
    · rfl
    · exact absurd rfl hnul
  cases state with
  | none => exact hstart hc
  | some p =>
    obtain ⟨htail, hlast, hnext⟩ := h p rfl
    unfold step at hc
    simp only [Bool.and_eq_true, decide_eq_true_eq] at hc
    split_ifs at hc with hrange hdue
    · have hvalue := Char.toNat_ofNat (p.value * 64 + (octet.toNat - 0x80))
      have hlarge := hlast hdue
      rw [← Option.some.inj (List.mem_singleton.1 hc)] at hvalue
      split_ifs at hvalue <;> omega
    · cases hc
    · exact hstart (by simpa using hc)

theorem mem_of_mem_readFrom {state : Option Pending} (h : IsSound state) {octets : List UInt8} {c : Char}
    (hc : some c ∈ readFrom state octets) (hascii : c.toNat < 128) (hnul : c.toNat ≠ 0) :
    ∃ octet ∈ octets, octet.toNat = c.toNat := by
  induction octets generalizing state with
  | nil =>
    unfold readFrom at hc
    split_ifs at hc <;> simp at hc
  | cons octet rest ih =>
    rw [readFrom, List.mem_append] at hc
    rcases hc with hc | hc
    · exact ⟨octet, List.mem_cons_self, mem_step h hc hascii hnul⟩
    · obtain ⟨other, hother, heq⟩ := ih (isSound_step h octet) hc
      exact ⟨other, List.mem_cons_of_mem _ hother, heq⟩

/-! ## Lenient decoding -/

theorem toList_decodeLossy (octets : List UInt8) :
    (decodeLossy octets).toList = (readFrom none octets).map fun c => c.getD (Char.ofNat 0xFFFD) :=
  String.toList_ofList

theorem decodeLossy_append_ascii (a : List UInt8) {octet : UInt8} (h : octet.toNat < 0x80) (b : List UInt8) :
    (decodeLossy (a ++ octet :: b)).toList =
      (decodeLossy a).toList ++ Char.ofNat octet.toNat :: (decodeLossy b).toList := by
  simp [toList_decodeLossy, readFrom_append_ascii isSound_none a h b]

theorem toList_decodeLossy_ne_nil {octets : List UInt8} (h : octets ≠ []) : (decodeLossy octets).toList ≠ [] := by
  rw [toList_decodeLossy]
  exact fun hnil => readFrom_ne_nil h (List.map_eq_nil_iff.1 hnil)

/-- an ASCII character of the text is one of the octets -/
theorem mem_of_mem_decodeLossy {octets : List UInt8} {octet : UInt8} (h : octet.toNat < 0x80) (hnul : octet.toNat ≠ 0)
    (hmem : Char.ofNat octet.toNat ∈ (decodeLossy octets).toList) : octet ∈ octets := by
  have hchar : (Char.ofNat octet.toNat).toNat = octet.toNat := by rw [Char.toNat_ofNat, if_pos (Or.inl (by omega))]
  rw [toList_decodeLossy] at hmem
  obtain ⟨read, hread, heq⟩ := List.mem_map.1 hmem
  cases read with
  | none =>
    have hgap : (Char.ofNat 0xFFFD).toNat = octet.toNat := (congrArg Char.toNat heq).trans hchar
    have hlarge : (Char.ofNat 0xFFFD).toNat = 0xFFFD := rfl
    omega
  | some c =>
    obtain rfl : c = Char.ofNat octet.toNat := heq
    obtain ⟨other, hother, hsame⟩ := mem_of_mem_readFrom isSound_none hread (by omega) (by omega)
    rwa [← UInt8.toNat_inj.1 (hsame.trans hchar)]

end ComponentCompiler.Text.Utf8
