import ComponentCompiler.Proofs.Template.Grammar

/-!
Blocks at their places.

`found` lists the blocks that a search for one kind meets, each with the number of characters before it. The spans of
these matches are determined by three properties (`Scan`, `Scan.unique`): they come one after the other, a block stands
at the beginning of each and ends where it ends, and there is no place where a block could begin that none of them
covers.

Taking the blocks out of a text leaves the characters that no span covers (`remove_eq_outside`).
-/

namespace ComponentCompiler.Template

open Text

/-! ## Spans -/

/-- the places of a text from one on and up to another, the last not among them -/
structure Span where
  start : Nat
  stop : Nat
  deriving DecidableEq, Repr

def Span.Covers (s : Span) (i : Nat) : Prop :=
  s.start ≤ i ∧ i < s.stop

instance (s : Span) (i : Nat) : Decidable (s.Covers i) :=
  inferInstanceAs (Decidable (s.start ≤ i ∧ i < s.stop))

def Span.slice (s : Span) (text : List Char) : List Char :=
  (text.drop s.start).take (s.stop - s.start)

theorem slice_of_drop {text part rest : List Char} {i j : Nat} (h : text.drop i = part ++ rest)
    (hj : j = i + part.length) :
    (Span.mk i j).slice text = part := by
  rw [hj, Span.slice, h, Nat.add_sub_cancel_left, List.take_left]

def Covered (spans : List Span) (i : Nat) : Prop :=
  ∃ s ∈ spans, s.Covers i

instance (spans : List Span) (i : Nat) : Decidable (Covered spans i) :=
  inferInstanceAs (Decidable (∃ s ∈ spans, s.Covers i))

@[simp]
theorem covered_nil (i : Nat) : ¬ Covered [] i := by
  simp [Covered]

@[simp]
theorem covered_cons (s : Span) (spans : List Span) (i : Nat) :
    Covered (s :: spans) i ↔ s.Covers i ∨ Covered spans i := by
  simp [Covered]

@[simp]
theorem covered_append (spans spans' : List Span) (i : Nat) :
    Covered (spans ++ spans') i ↔ Covered spans i ∨ Covered spans' i := by
  simp [Covered, or_and_right, exists_or]

/-! ## Matches -/

structure Match where
  start : Nat
  block : Block
  deriving DecidableEq, Repr

namespace Match

def stop (m : Match) : Nat :=
  m.start + m.block.text.length

def span (m : Match) : Span :=
  ⟨m.start, m.stop⟩

/-- the place where the closing tag begins -/
def closingStart (m : Match) : Nat :=
  m.start + m.block.opening.length + m.block.body.length

/-- the place where the trimmed body begins -/
def bodyStart (m : Match) : Nat :=
  m.start + m.block.opening.length + (m.block.body.takeWhile isBlank).length

/-- the trimmed body -/
def hoisted (m : Match) : Span :=
  ⟨m.bodyStart, m.bodyStart + (trim m.block.body).length⟩

end Match

/-- the blocks of a text that begins at a place, as they were cut -/
def locate (start : Nat) : List (List Char × Block) → List Match
  | [] => []
  | (before, block) :: later =>
    ⟨start + before.length, block⟩ :: locate (start + before.length + block.text.length) later

/-- the blocks of a kind that are found in a text, from left to right -/
def found (kind : BlockKind) (text : List Char) : List Match :=
  locate 0 (split kind text).blocks

def spans (kind : BlockKind) (text : List Char) : List Span :=
  (found kind text).map Match.span

/-- the place behind a block that stands at a place -/
def blockEnd? (kind : BlockKind) (text : List Char) (i : Nat) : Option Nat :=
  (blockAt? kind (text.drop i)).map fun found => i + found.1.text.length

theorem blockEnd?_eq_some_iff {kind : BlockKind} {text : List Char} {i stop : Nat} :
    blockEnd? kind text i = some stop ↔
      ∃ block after, text.drop i = block.text ++ after ∧ IsBlock kind block ∧ stop = i + block.text.length := by
  simp only [blockEnd?, Option.map_eq_some_iff, Prod.exists, blockAt?_eq_some_iff]
  constructor
  · rintro ⟨block, after, ⟨htext, hblock⟩, rfl⟩
    exact ⟨block, after, htext, hblock, rfl⟩
  · rintro ⟨block, after, htext, hblock, rfl⟩
    exact ⟨block, after, ⟨htext, hblock⟩, rfl⟩

theorem isSome_blockEnd? {kind : BlockKind} {text : List Char} {i : Nat} :
    (blockEnd? kind text i).isSome = (blockAt? kind (text.drop i)).isSome := by
  simp [blockEnd?]

theorem lt_of_blockEnd? {kind : BlockKind} {text : List Char} {i stop : Nat} (h : blockEnd? kind text i = some stop) :
    i < stop := by
  obtain ⟨block, after, -, hblock, rfl⟩ := blockEnd?_eq_some_iff.1 h
  have := hblock.text_pos
  omega

/-! ## What a search finds -/

/-- spans that a search from a place on finds: they come one after the other, each from the beginning of a block to its
end, and no block begins at a place that they leave out -/
structure Scan (kind : BlockKind) (text : List Char) (start : Nat) (spans : List Span) : Prop where
  ordered : spans.Pairwise fun s s' => s.stop ≤ s'.start
  from_start : ∀ s ∈ spans, start ≤ s.start
  stands : ∀ s ∈ spans, blockEnd? kind text s.start = some s.stop
  covers : ∀ i, start ≤ i → (blockEnd? kind text i).isSome → Covered spans i

namespace Scan

variable {kind : BlockKind} {text : List Char} {start : Nat}

/-- after the first span the search goes on behind it -/
theorem tail {s : Span} {spans : List Span} (h : Scan kind text start (s :: spans)) : Scan kind text s.stop spans where
  ordered := (List.pairwise_cons.1 h.ordered).2
  from_start := (List.pairwise_cons.1 h.ordered).1
  stands := fun s' hs' => h.stands s' (List.mem_cons_of_mem s hs')
  covers := fun i hi hsome => by
    have hlt := lt_of_blockEnd? (h.stands s List.mem_cons_self)
    have hfrom := h.from_start s List.mem_cons_self
    rcases (covered_cons s spans i).1 (h.covers i (by omega) hsome) with hhead | htail
    · exact absurd hhead.2 (by omega)
    · exact htail

/-- the first span begins no later than any place where a block stands -/
theorem head_le {s : Span} {spans : List Span} (h : Scan kind text start (s :: spans)) {i : Nat} (hi : start ≤ i)
    (hsome : (blockEnd? kind text i).isSome) : s.start ≤ i := by
  rcases (covered_cons s spans i).1 (h.covers i hi hsome) with hhead | ⟨s', hs', hcovers⟩
  · exact hhead.1
  · have hlt := lt_of_blockEnd? (h.stands s List.mem_cons_self)
    have hafter := (List.pairwise_cons.1 h.ordered).1 s' hs'
    have := hcovers.1
    omega

/-- **There is one list of spans that a search can find.** -/
theorem unique {spans spans' : List Span} (h : Scan kind text start spans) (h' : Scan kind text start spans') :
    spans = spans' := by
  induction spans generalizing start spans' with
  | nil =>
    cases spans' with
    | nil => rfl
    | cons s' spans' =>
      have hstands := h'.stands s' List.mem_cons_self
      have hcovered := h.covers s'.start (h'.from_start s' List.mem_cons_self) (by simp [hstands])
      exact absurd hcovered (covered_nil _)
  | cons s spans ih =>
    have hstands := h.stands s List.mem_cons_self
    have hfrom := h.from_start s List.mem_cons_self
    cases spans' with
    | nil => exact absurd (h'.covers s.start hfrom (by simp [hstands])) (covered_nil _)
    | cons s' spans' =>
      have hstands' := h'.stands s' List.mem_cons_self
      have hle := h.head_le (h'.from_start s' List.mem_cons_self) (by simp [hstands'])
      have hle' := h'.head_le hfrom (by simp [hstands])
      have hstart : s.start = s'.start := Nat.le_antisymm hle hle'
      have hstop : s.stop = s'.stop := by
        rw [hstart, hstands'] at hstands
        exact (Option.some.inj hstands).symm
      have hsame : s = s' := by
        cases s
        cases s'
        simp_all
      subst hsame
      rw [ih h.tail h'.tail]

end Scan

/-! ### The search itself -/

theorem firstBlock_spec {kind : BlockKind} {text before after : List Char} {block : Block}
    (h : firstBlock kind text = some (before, block, after)) :
    IsBlock kind block ∧ ∀ i < before.length, blockAt? kind (text.drop i) = none := by
  induction text generalizing before with
  | nil => simp [firstBlock] at h
  | cons c rest ih =>
    unfold firstBlock at h
    split at h
    · next block' after' hblock =>
      simp only [Option.some.injEq, Prod.mk.injEq] at h
      obtain ⟨rfl, rfl, rfl⟩ := h
      refine ⟨(blockAt?_eq_some_iff.1 hblock).2, ?_⟩
      simp
    · next hnone =>
      simp only [Option.map_eq_some_iff, Prod.exists, Prod.mk.injEq] at h
      obtain ⟨before', block', after', h', rfl, rfl, rfl⟩ := h
      obtain ⟨hblock, hearlier⟩ := ih h'
      refine ⟨hblock, ?_⟩
      intro i hi
      cases i with
      | zero => exact hnone
      | succ i => exact hearlier i (by simpa using hi)

theorem firstBlock_none {kind : BlockKind} {text : List Char} (h : firstBlock kind text = none) (i : Nat) :
    blockAt? kind (text.drop i) = none := by
  induction text generalizing i with
  | nil =>
    rw [List.drop_nil]
    cases kind <;> rfl
  | cons c rest ih =>
    unfold firstBlock at h
    split at h
    · cases h
    · next hnone =>
      rw [Option.map_eq_none_iff] at h
      cases i with
      | zero => exact hnone
      | succ i => exact ih h i

/-- the blocks of a kind that a search from a place on finds -/
def foundFrom (kind : BlockKind) (text : List Char) (start : Nat) : List Match :=
  locate start (split kind (text.drop start)).blocks

/-- a match that a search from a place on meets first -/
structure IsFirst (kind : BlockKind) (text : List Char) (start : Nat) (m : Match) : Prop where
  le : start ≤ m.start
  block : IsBlock kind m.block
  stands : text.drop m.start = m.block.text ++ text.drop m.stop
  first : ∀ i, start ≤ i → i < m.start → blockAt? kind (text.drop i) = none

/-- one step of the search: there is no block, or it takes the first one and goes on behind it -/
theorem foundFrom_cases (kind : BlockKind) (text : List Char) (start : Nat) :
    (foundFrom kind text start = [] ∧ ∀ i, start ≤ i → blockAt? kind (text.drop i) = none) ∨
      ∃ m, IsFirst kind text start m ∧ foundFrom kind text start = m :: foundFrom kind text m.stop := by
  cases hfind : findBlock kind (text.drop start) with
  | none =>
    refine Or.inl ⟨by rw [foundFrom, split_of_none hfind, locate], ?_⟩
    intro i hi
    obtain ⟨k, rfl⟩ := Nat.exists_eq_add_of_le hi
    rw [findBlock_eq] at hfind
    rw [← List.drop_drop]
    exact firstBlock_none hfind k
  | some cut =>
    obtain ⟨before, block, after⟩ := cut
    have hfirst := findBlock_eq kind _ ▸ hfind
    obtain ⟨hblock, hearlier⟩ := firstBlock_spec hfirst
    have htext : text.drop start = before ++ (block.text ++ after) := by simpa using (firstBlock_eq hfirst).1
    have hat : text.drop (start + before.length) = block.text ++ after := by
      rw [← List.drop_drop, htext, List.drop_left]
    have hafter : text.drop (start + before.length + block.text.length) = after := by
      rw [← List.drop_drop, hat, List.drop_left]
    refine Or.inr ⟨⟨start + before.length, block⟩, ⟨Nat.le_add_right _ _, hblock, ?_, ?_⟩, ?_⟩
    · rw [Match.stop, hafter]
      exact hat
    · intro i hi hlt
      obtain ⟨k, rfl⟩ := Nat.exists_eq_add_of_le hi
      rw [← List.drop_drop]
      exact hearlier k (by simp only at hlt; omega)
    · rw [foundFrom, split_of_some hfind, locate, foundFrom, Match.stop, hafter]

/-- to show something of what a search finds, show it where nothing is found and for one step -/
theorem foundFrom_induction {kind : BlockKind} {text : List Char} {P : Nat → List Match → Prop}
    (hnone : ∀ start, (∀ i, start ≤ i → blockAt? kind (text.drop i) = none) → P start [])
    (hstep : ∀ start m ms, IsFirst kind text start m → P m.stop ms → P start (m :: ms)) (start : Nat) :
    P start (foundFrom kind text start) := by
  generalize hms : foundFrom kind text start = ms
  induction ms generalizing start with
  | nil =>
    rcases foundFrom_cases kind text start with ⟨-, hno⟩ | ⟨m, -, hcons⟩
    · exact hnone start hno
    · rw [hms] at hcons
      cases hcons
  | cons m ms ih =>
    rcases foundFrom_cases kind text start with ⟨hnil, -⟩ | ⟨m', hfirst, hcons⟩
    · rw [hms] at hnil
      cases hnil
    · rw [hms] at hcons
      obtain ⟨rfl, hlater⟩ := List.cons.inj hcons
      exact hstep start m ms hfirst (ih m.stop hlater.symm)

theorem IsFirst.blockEnd? {kind : BlockKind} {text : List Char} {start : Nat} {m : Match}
    (h : IsFirst kind text start m) : blockEnd? kind text m.start = some m.stop :=
  blockEnd?_eq_some_iff.2 ⟨m.block, text.drop m.stop, h.stands, h.block, rfl⟩

/-- the first match and the spans of a search behind it are the spans of a search -/
theorem IsFirst.scan {kind : BlockKind} {text : List Char} {start : Nat} {m : Match} {spans : List Span}
    (h : IsFirst kind text start m) (hscan : Scan kind text m.stop spans) : Scan kind text start (m.span :: spans) where
  ordered := List.pairwise_cons.2 ⟨hscan.from_start, hscan.ordered⟩
  from_start := by
    intro s hs
    have hlt := lt_of_blockEnd? h.blockEnd?
    rcases List.mem_cons.1 hs with rfl | hs
    · exact h.le
    · exact h.le.trans (hlt.le.trans (hscan.from_start s hs))
  stands := by
    intro s hs
    rcases List.mem_cons.1 hs with rfl | hs
    · exact h.blockEnd?
    · exact hscan.stands s hs
  covers := by
    intro i hi hsome
    rw [covered_cons]
    by_cases hbefore : i < m.start
    · rw [isSome_blockEnd?, h.first i hi hbefore] at hsome
      cases hsome
    · by_cases hbehind : m.stop ≤ i
      · exact Or.inr (hscan.covers i hbehind hsome)
      · exact Or.inl ⟨Nat.le_of_not_lt hbefore, Nat.lt_of_not_le hbehind⟩

/-- the spans of the matches are those that a search can find -/
theorem scan_spans (kind : BlockKind) (text : List Char) : Scan kind text 0 (spans kind text) := by
  refine foundFrom_induction (P := fun start ms => Scan kind text start (ms.map Match.span)) ?_ ?_ 0
  · intro start hno
    refine ⟨List.Pairwise.nil, by simp, by simp, ?_⟩
    intro i hi hsome
    rw [isSome_blockEnd?, hno i hi] at hsome
    cases hsome
  · intro start m ms hfirst hscan
    exact hfirst.scan hscan

/-- where a block of a kind could begin, one has been found -/
theorem covered_of_blockAt? {kind : BlockKind} {text : List Char} {i : Nat} (h : (blockAt? kind (text.drop i)).isSome) :
    Covered (spans kind text) i :=
  (scan_spans kind text).covers i (Nat.zero_le i) (by rw [isSome_blockEnd?]; exact h)

/-- a match is a block that stands at its place -/
theorem mem_found {kind : BlockKind} {text : List Char} {m : Match} (hm : m ∈ found kind text) :
    IsBlock kind m.block ∧ text.drop m.start = m.block.text ++ text.drop m.stop := by
  have hall : ∀ m ∈ found kind text, ∃ start, IsFirst kind text start m := by
    refine foundFrom_induction (P := fun _ ms => ∀ m ∈ ms, ∃ start, IsFirst kind text start m) ?_ ?_ 0
    · intro start _ m hm
      cases hm
    · intro start first ms hfirst hlater m hm
      rcases List.mem_cons.1 hm with rfl | hm
      · exact ⟨start, hfirst⟩
      · exact hlater m hm
  obtain ⟨start, hfirst⟩ := hall m hm
  exact ⟨hfirst.block, hfirst.stands⟩

theorem blockAt?_of_mem_found {kind : BlockKind} {text : List Char} {m : Match} (hm : m ∈ found kind text) :
    blockAt? kind (text.drop m.start) = some (m.block, text.drop m.stop) := by
  obtain ⟨hblock, htext⟩ := mem_found hm
  rw [htext]
  exact hblock.blockAt? _

/-- behind the opening tag of a match come its body, its closing tag and what follows it -/
theorem drop_behind_opening {text : List Char} {m : Match} (h : text.drop m.start = m.block.text ++ text.drop m.stop) :
    text.drop (m.start + m.block.opening.length) = m.block.body ++ (m.block.closing ++ text.drop m.stop) := by
  rw [← List.drop_drop, h, Block.text, List.append_assoc, List.append_assoc, List.drop_left]

theorem drop_closingStart {text : List Char} {m : Match} (h : text.drop m.start = m.block.text ++ text.drop m.stop) :
    text.drop m.closingStart = m.block.closing ++ text.drop m.stop := by
  rw [Match.closingStart, ← List.drop_drop, drop_behind_opening h, List.drop_left]

/-! ## The characters outside the spans -/

/-- the characters that no span covers, of a text that begins at a place -/
def outsideFrom (spans : List Span) : Nat → List Char → List Char
  | _, [] => []
  | i, c :: rest => if Covered spans i then outsideFrom spans (i + 1) rest else c :: outsideFrom spans (i + 1) rest

def outside (spans : List Span) (text : List Char) : List Char :=
  outsideFrom spans 0 text

theorem outsideFrom_append (spans : List Span) (i : Nat) (a b : List Char) :
    outsideFrom spans i (a ++ b) = outsideFrom spans i a ++ outsideFrom spans (i + a.length) b := by
  induction a generalizing i with
  | nil => rfl
  | cons c a ih =>
    have hlength : i + (c :: a).length = i + 1 + a.length := by
      rw [List.length_cons]
      omega
    rw [hlength, List.cons_append, outsideFrom, outsideFrom, ih]
    split_ifs <;> rfl

theorem outsideFrom_congr {spans spans' : List Span} {i : Nat} {text : List Char}
    (h : ∀ j, i ≤ j → j < i + text.length → (Covered spans j ↔ Covered spans' j)) :
    outsideFrom spans i text = outsideFrom spans' i text := by
  induction text generalizing i with
  | nil => rfl
  | cons c text ih =>
    have hrest := ih (i := i + 1) fun j hj hlt => h j (by omega) (by rw [List.length_cons]; omega)
    have hfirst := h i (le_refl i) (by rw [List.length_cons]; omega)
    rw [outsideFrom, outsideFrom, hrest]
    simp only [hfirst]

/-- what no span touches stays -/
theorem outsideFrom_eq_self {spans : List Span} {i : Nat} {text : List Char}
    (h : ∀ j, i ≤ j → j < i + text.length → ¬ Covered spans j) : outsideFrom spans i text = text := by
  induction text generalizing i with
  | nil => rfl
  | cons c text ih =>
    have hfirst := h i (le_refl i) (by rw [List.length_cons]; omega)
    rw [outsideFrom, if_neg hfirst, ih fun j hj hlt => h j (by omega) (by rw [List.length_cons]; omega)]

/-- what the spans cover goes -/
theorem outsideFrom_eq_nil {spans : List Span} {i : Nat} {text : List Char}
    (h : ∀ j, i ≤ j → j < i + text.length → Covered spans j) : outsideFrom spans i text = [] := by
  induction text generalizing i with
  | nil => rfl
  | cons c text ih =>
    have hfirst := h i (le_refl i) (by rw [List.length_cons]; omega)
    rw [outsideFrom, if_pos hfirst]
    exact ih fun j hj hlt => h j (by omega) (by rw [List.length_cons]; omega)

/-- located blocks begin where the text begins, or later -/
theorem start_le_of_covered_locate {start i : Nat} {blocks : List (List Char × Block)}
    (h : Covered ((locate start blocks).map Match.span) i) : start ≤ i := by
  induction blocks generalizing start with
  | nil => exact absurd h (covered_nil i)
  | cons cut blocks ih =>
    rw [locate, List.map_cons, covered_cons] at h
    rcases h with hhead | hlater
    · exact (Nat.le_add_right _ _).trans hhead.1
    · have := ih hlater
      omega

/-- outside located blocks lies what was cut off before and behind them -/
theorem outsideFrom_locate (start : Nat) (blocks : List (List Char × Block)) (rest : List Char) :
    outsideFrom ((locate start blocks).map Match.span) start (Pieces.text ⟨blocks, rest⟩) =
      Pieces.outside ⟨blocks, rest⟩ := by
  induction blocks generalizing start with
  | nil => exact outsideFrom_eq_self fun j _ _ => covered_nil j
  | cons cut blocks ih =>
    obtain ⟨before, block⟩ := cut
    have hlater := ih (start + before.length + block.text.length)
    have hfrom : ∀ j, Covered ((locate (start + before.length + block.text.length) blocks).map Match.span) j →
        start + before.length + block.text.length ≤ j := fun j hj => start_le_of_covered_locate hj
    have htext : Pieces.text ⟨(before, block) :: blocks, rest⟩ =
        before ++ (block.text ++ Pieces.text ⟨blocks, rest⟩) := by
      simp [Pieces.text]
    have houtside : Pieces.outside ⟨(before, block) :: blocks, rest⟩ = before ++ Pieces.outside ⟨blocks, rest⟩ := by
      simp [Pieces.outside]
    rw [htext, houtside, ← hlater, outsideFrom_append, outsideFrom_append, locate, List.map_cons]
    generalize (locate (start + before.length + block.text.length) blocks).map Match.span = later at hfrom
    have hbefore : outsideFrom ((⟨start + before.length, block⟩ : Match).span :: later) start before = before := by
      refine outsideFrom_eq_self fun j hj hlt => ?_
      rw [covered_cons]
      rintro (hhead | hcovered)
      · exact absurd hhead.1 (Nat.not_le_of_lt hlt)
      · have := hfrom j hcovered
        omega
    have hblock : outsideFrom ((⟨start + before.length, block⟩ : Match).span :: later) (start + before.length)
        block.text = [] := by
      refine outsideFrom_eq_nil fun j hj hlt => ?_
      rw [covered_cons]
      exact Or.inl ⟨hj, hlt⟩
    rw [hbefore, hblock, List.nil_append]
    congr 1
    refine outsideFrom_congr fun j hj _ => ?_
    rw [covered_cons]
    constructor
    · rintro (hhead | hcovered)
      · exact absurd hhead.2 (Nat.not_lt_of_le hj)
      · exact hcovered
    · exact Or.inr

/-- taking out the blocks of a kind leaves what their spans do not cover -/
theorem remove_eq_outside (kind : BlockKind) (text : List Char) :
    remove kind text = outside (spans kind text) text := by
  have h := outsideFrom_locate 0 (split kind text).blocks (split kind text).rest
  rw [split_text] at h
  exact h.symm

end ComponentCompiler.Template
