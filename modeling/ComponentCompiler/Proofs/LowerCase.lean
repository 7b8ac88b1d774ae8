import ComponentCompiler.Text.LowerCase
import ComponentCompiler.Proofs.Text
import ComponentCompiler.Proofs.Utf8

/-!
Lower case, taken once and for all.

A character that is not one of the `capitals` is its own lower case (`isSmall_of_not_capital`), and what the lower case
of a character is made of is no capital (`isSmall_of_mem_lowerOf`). This is a fact about the whole table of capitals:
`not_capital_of_small` reads the two lists as the bits of two numbers, which have none in common. So the lower case of a
text is its own lower case (`lowercase_lowercase`).

Whether a sigma ends a word depends on the letters around it, but not on their case. So texts that differ in nothing but
the case of ASCII letters have one lower case (`lowercase_eq_of_sameButCase`).
-/

namespace ComponentCompiler.Text

/-! ## The table -/

def capitalsOf (run : Nat × Nat × Nat × Int) : List Nat :=
  List.range' run.1 ((run.2.1 - run.1) / run.2.2.1 + 1) run.2.2.1

/-- the characters that have another lower case -/
def capitals : List Nat :=
  List.range' 0x41 26 ++ 0x130 :: capitalRuns.flatMap capitalsOf

/-- the characters that their lower case is made of -/
def smallLetters : List Nat :=
  List.range' 0x61 26 ++ 0x307 :: 0x3C2 :: 0x3C3 ::
    capitalRuns.flatMap fun run => (capitalsOf run).map fun (n : Nat) => ((n : Int) + run.2.2.2).toNat

/-- numbers as the bits of one number -/
def bitsOf (numbers : List Nat) : Nat :=
  numbers.foldr (fun n bits => bits ||| 1 <<< n) 0

theorem testBit_bitsOf (numbers : List Nat) (n : Nat) : (bitsOf numbers).testBit n = true ↔ n ∈ numbers := by
  induction numbers with
  | nil => simp [bitsOf]
  | cons m numbers ih =>
    rw [bitsOf, List.foldr_cons, Nat.testBit_or, Bool.or_eq_true, Nat.one_shiftLeft, Nat.testBit_two_pow,
      decide_eq_true_eq, List.mem_cons, ← ih, or_comm, eq_comm]
    rfl

/-- **No small letter is a capital.** -/
theorem not_capital_of_small {n : Nat} (h : n ∈ smallLetters) : n ∉ capitals := by
  have hcheck : bitsOf capitals &&& bitsOf smallLetters = 0 := by decide +kernel
  intro hcapital
  have hbit : (bitsOf capitals &&& bitsOf smallLetters).testBit n = true := by
    rw [Nat.testBit_and, Bool.and_eq_true]
    exact ⟨(testBit_bitsOf _ _).2 hcapital, (testBit_bitsOf _ _).2 h⟩
  rw [hcheck, Nat.zero_testBit] at hbit
  cases hbit

/-- a run leads from its capitals to small letters, and all other characters stay -/
theorem lowerByRuns_cases (n : Nat) :
    (lowerByRuns n ∈ smallLetters ∧ n ∈ capitals) ∨ lowerByRuns n = n := by
  unfold lowerByRuns
  split
  · next run hfind =>
    have hrun : run ∈ capitalRuns := List.mem_of_find?_eq_some hfind
    have hn : n ∈ capitalsOf run := by
      have hin := List.find?_some hfind
      simp only [Bool.and_eq_true, decide_eq_true_eq, beq_iff_eq] at hin
      obtain ⟨⟨hfirst, hlast⟩, hstep⟩ := hin
      rw [capitalsOf, List.mem_range']
      refine ⟨(n - run.1) / run.2.2.1, ?_, ?_⟩
      · exact Nat.lt_succ_of_le (Nat.div_le_div_right (Nat.sub_le_sub_right hlast _))
      · have := Nat.div_add_mod (n - run.1) run.2.2.1
        omega
    left
    constructor
    · simp only [smallLetters, List.mem_append, List.mem_cons, List.mem_flatMap, List.mem_map]
      exact Or.inr (Or.inr (Or.inr (Or.inr ⟨run, hrun, n, hn, rfl⟩)))
    · simp only [capitals, List.mem_append, List.mem_cons, List.mem_flatMap]
      exact Or.inr (Or.inr ⟨run, hrun, hn⟩)
  · exact Or.inr rfl

/-! ## Lower case of lower case -/

/-- a character that lower case leaves as it is, wherever it stands -/
structure IsSmall (c : Char) : Prop where
  plain : c.toNat ≠ 0x3A3
  lower : lowerOf c = [c]

theorem isSmall_of_not_capital {c : Char} (h : c.toNat ∉ capitals) : IsSmall c where
  plain := by
    intro hsigma
    rw [hsigma] at h
    exact h (by decide +kernel)
  lower := by
    have hascii : ¬ (0x41 ≤ c.toNat ∧ c.toNat ≤ 0x5A) := by
      intro hrange
      apply h
      rw [capitals, List.mem_append, List.mem_range'_1]
      omega
    have hdotted : c.toNat ≠ 0x130 := by
      intro hdot
      apply h
      rw [hdot]
      decide +kernel
    have hruns : lowerByRuns c.toNat = c.toNat := (lowerByRuns_cases c.toNat).resolve_left fun hcase => h hcase.2
    have hlower : c.toLower = c := by
      apply Char.toNat_inj.1
      rw [toNat_toLower, if_neg hascii]
    simp [lowerOf, hlower, hdotted, hruns]

theorem isSmall_ofNat {n : Nat} (h : n ∈ smallLetters) : IsSmall (Char.ofNat n) := by
  apply isSmall_of_not_capital
  rw [Char.toNat_ofNat]
  split_ifs
  · exact not_capital_of_small h
  · decide +kernel

theorem isSmall_of_mem_lowerOf {c d : Char} (hc : c.toNat ≠ 0x3A3) (hd : d ∈ lowerOf c) : IsSmall d := by
  by_cases hself : lowerOf c = [c]
  · rw [hself, List.mem_singleton] at hd
    rw [hd]
    exact ⟨hc, hself⟩
  · -- the lower case is something else, so it is made of the small letters of the table
    suffices hsmall : ∃ n ∈ smallLetters, d = Char.ofNat n by
      obtain ⟨n, hn, rfl⟩ := hsmall
      exact isSmall_ofNat hn
    unfold lowerOf at hd hself
    simp only [beq_iff_eq] at hd hself
    split_ifs at hd hself with hascii hdotted
    · have hd : d = c.toLower := List.mem_singleton.1 hd
      have hcapital : 0x41 ≤ c.toNat ∧ c.toNat ≤ 0x5A := by
        by_contra hnot
        apply hself
        rw [Char.toNat_inj.1 ((toNat_toLower c).trans (if_neg hnot))]
      have hn : d.toNat = c.toNat + 0x20 := by rw [hd, toNat_toLower, if_pos hcapital]
      refine ⟨d.toNat, ?_, (Char.ofNat_toNat d).symm⟩
      rw [hn, smallLetters, List.mem_append, List.mem_range'_1]
      omega
    · rcases List.mem_cons.1 hd with rfl | hmark
      · exact ⟨0x69, by decide +kernel, rfl⟩
      · exact ⟨0x307, by decide +kernel, List.mem_singleton.1 hmark⟩
    · have hchanged : lowerByRuns c.toNat ≠ c.toNat := by
        intro hsame
        rw [hsame, Char.ofNat_toNat] at hself
        exact hself rfl
      exact ⟨_, ((lowerByRuns_cases c.toNat).resolve_right hchanged).1, List.mem_singleton.1 hd⟩

/-- what is made of small letters is its own lower case -/
theorem lowerAfter_eq_self {text : List Char} (h : ∀ c ∈ text, IsSmall c) (before : List Char) :
    lowerAfter before text = text := by
  induction text generalizing before with
  | nil => rfl
  | cons c rest ih =>
    obtain ⟨hplain, hlower⟩ := h c List.mem_cons_self
    have hrest : lowerAfter (c :: before) rest = rest := ih (fun d hd => h d (List.mem_cons_of_mem c hd)) _
    simp only [lowerAfter, beq_iff_eq, hplain, if_false, hlower, hrest, List.singleton_append]

theorem isSmall_of_mem_lowerAfter {before text : List Char} {d : Char} (hd : d ∈ lowerAfter before text) :
    IsSmall d := by
  induction text generalizing before with
  | nil => cases hd
  | cons c rest ih =>
    simp only [lowerAfter, beq_iff_eq, List.mem_append] at hd
    rcases hd with hfirst | hrest
    · by_cases hsigma : c.toNat = 0x3A3
      · rw [if_pos hsigma, List.mem_singleton] at hfirst
        rw [hfirst]
        apply isSmall_ofNat
        split_ifs
        · decide +kernel
        · decide +kernel
      · rw [if_neg hsigma] at hfirst
        exact isSmall_of_mem_lowerOf hsigma hfirst
    · exact ih hrest

/-- **Lower case is taken once.** -/
theorem lowercase_lowercase (s : String) : lowercase (lowercase s) = lowercase s := by
  rw [lowercase, lowercase, String.toList_ofList]
  rw [lowerAfter_eq_self fun d hd => isSmall_of_mem_lowerAfter hd]

/-! ## The case of ASCII letters -/

/-- two texts that differ in nothing but the case of ASCII letters -/
def SameButCase (s t : String) : Prop :=
  s.toList.map Char.toLower = t.toList.map Char.toLower

instance (s t : String) : Decidable (SameButCase s t) :=
  inferInstanceAs (Decidable (s.toList.map Char.toLower = t.toList.map Char.toLower))

/-- what does not tell the ASCII capitals from their small forms does not tell any two cases apart -/
theorem apply_toLower {α : Type} [DecidableEq α] (f : Char → α)
    (h : (List.range' 0x41 26).all fun n => f (Char.ofNat n).toLower = f (Char.ofNat n)) (c : Char) :
    f c.toLower = f c := by
  by_cases hcapital : 0x41 ≤ c.toNat ∧ c.toNat ≤ 0x5A
  · have hc := List.all_eq_true.1 h c.toNat (List.mem_range'_1.2 (by omega))
    rwa [Char.ofNat_toNat, decide_eq_true_eq] at hc
  · rw [Char.toNat_inj.1 ((toNat_toLower c).trans (if_neg hcapital))]

theorem isCased_toLower (c : Char) : isCased c.toLower = isCased c :=
  apply_toLower isCased (by decide) c

theorem isCaseIgnorable_toLower (c : Char) : isCaseIgnorable c.toLower = isCaseIgnorable c :=
  apply_toLower isCaseIgnorable (by decide) c

theorem lowerOf_toLower (c : Char) : lowerOf c.toLower = lowerOf c :=
  apply_toLower lowerOf (by decide) c

theorem isSigma_toLower (c : Char) : (c.toLower.toNat == 0x3A3) = (c.toNat == 0x3A3) :=
  apply_toLower (fun c => c.toNat == 0x3A3) (by decide) c

theorem meetsCased_map_toLower (text : List Char) : meetsCased (text.map Char.toLower) = meetsCased text := by
  have hignored : isCaseIgnorable ∘ Char.toLower = isCaseIgnorable := funext isCaseIgnorable_toLower
  rw [meetsCased, meetsCased, List.dropWhile_map, hignored]
  cases text.dropWhile isCaseIgnorable with
  | nil => rfl
  | cons c rest => exact isCased_toLower c

theorem lowerAfter_map_toLower (before text : List Char) :
    lowerAfter (before.map Char.toLower) (text.map Char.toLower) = lowerAfter before text := by
  induction text generalizing before with
  | nil => rfl
  | cons c rest ih =>
    have hrest := ih (c :: before)
    rw [List.map_cons] at hrest
    simp only [List.map_cons, lowerAfter, isSigma_toLower, meetsCased_map_toLower, lowerOf_toLower, hrest]

/-- **One lower case for all ASCII cases.** -/
theorem lowercase_eq_of_sameButCase {s t : String} (h : SameButCase s t) : lowercase s = lowercase t := by
  have hlower : lowerAfter [] s.toList = lowerAfter [] t.toList :=
    calc lowerAfter [] s.toList
        = lowerAfter [] (s.toList.map Char.toLower) := (lowerAfter_map_toLower [] s.toList).symm
      _ = lowerAfter [] (t.toList.map Char.toLower) := by rw [h]
      _ = lowerAfter [] t.toList := lowerAfter_map_toLower [] t.toList
  rw [lowercase, lowercase, hlower]

end ComponentCompiler.Text
