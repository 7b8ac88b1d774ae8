import Mathlib.Order.Monotone.Basic
import ComponentCompiler.Proofs.Template.Hoisting

/-!
What is taken out of the markup, against what is hoisted.

Scripts are hoisted from the source, but taken out of what is left of it when the style blocks are gone. There a script
match of the source can be broken, and parts that come together can be a script block that the source does not have:
`joined_script_dropped` shows a text that is taken out of the markup and hoisted nowhere.

`carried` tells where a place of the source is in what is left. The script blocks that are taken out are the remains of
the script matches of the source exactly when the source is `Undisturbed`, that is when each of these remains is empty
or again a block, and no other block begins in what is left (`spans_left_iff`). Then the markup is the source without
the spans of its matches (`markup_eq_outside_iff`).
-/

namespace ComponentCompiler.Template

open Text

/-! ## Places in what is left -/

/-- where a place is when spans are taken out: the number of places before it that none of them covers -/
def carried (taken : List Span) : Nat → Nat
  | 0 => 0
  | i + 1 => if Covered taken i then carried taken i else carried taken i + 1

/-- what remains of a span when others are taken out -/
def Span.carry (taken : List Span) (s : Span) : Span :=
  ⟨carried taken s.start, carried taken s.stop⟩

theorem carried_le_succ (taken : List Span) (i : Nat) : carried taken i ≤ carried taken (i + 1) := by
  rw [carried]
  split_ifs <;> omega

theorem carried_mono (taken : List Span) {i j : Nat} (h : i ≤ j) : carried taken i ≤ carried taken j :=
  monotone_nat_of_le_succ (carried_le_succ taken) h

theorem carried_lt {taken : List Span} {i j : Nat} (h : i < j) (hi : ¬ Covered taken i) :
    carried taken i < carried taken j := by
  have hnext : carried taken (i + 1) = carried taken i + 1 := by rw [carried, if_neg hi]
  have hle : carried taken (i + 1) ≤ carried taken j := carried_mono taken h
  omega

/-- a place that is not taken out lies in the remains of a span exactly when it lies in the span -/
theorem covers_carry_iff {taken : List Span} (s : Span) {i : Nat} (hi : ¬ Covered taken i) :
    (s.carry taken).Covers (carried taken i) ↔ s.Covers i := by
  constructor
  · rintro ⟨hstart, hstop⟩
    constructor
    · by_contra hlt
      exact absurd (carried_lt (Nat.lt_of_not_le hlt) hi) (Nat.not_lt_of_le hstart)
    · by_contra hle
      exact absurd (carried_mono taken (Nat.le_of_not_lt hle)) (Nat.not_le_of_lt hstop)
  · rintro ⟨hstart, hstop⟩
    exact ⟨carried_mono taken hstart, carried_lt hstop hi⟩

/-- the rest of what is left is what is left of the rest -/
theorem drop_carried (taken : List Span) (text : List Char) (i : Nat) :
    (outside taken text).drop (carried taken i) = outsideFrom taken i (text.drop i) := by
  induction i with
  | zero => rfl
  | succ i ih =>
    cases hrest : text.drop i with
    | nil =>
      have hnext : text.drop (i + 1) = [] := by rw [← List.drop_drop, hrest, List.drop_nil]
      rw [hrest, outsideFrom, List.drop_eq_nil_iff] at ih
      rw [hnext, outsideFrom, List.drop_eq_nil_iff]
      exact ih.trans (carried_le_succ taken i)
    | cons c rest =>
      have hnext : text.drop (i + 1) = rest := by rw [← List.drop_drop, hrest, List.drop_one, List.tail_cons]
      rw [hrest, outsideFrom] at ih
      rw [hnext, carried]
      split_ifs at ih ⊢ with hcovered
      · exact ih
      · rw [← List.drop_drop, ih, List.drop_one, List.tail_cons]

/-- taking out spans in two steps is taking them out at once, when the second step takes out what remains of them -/
theorem outsideFrom_outsideFrom {taken later all : List Span} (i : Nat) (text : List Char)
    (h : ∀ j, ¬ Covered taken j → (Covered later (carried taken j) ↔ Covered all j)) :
    outsideFrom later (carried taken i) (outsideFrom taken i text) = outsideFrom (taken ++ all) i text := by
  induction text generalizing i with
  | nil => rfl
  | cons c text ih =>
    have hrest := ih (i + 1)
    rw [carried] at hrest
    rw [outsideFrom, outsideFrom]
    by_cases htaken : Covered taken i
    · have hall : Covered (taken ++ all) i := (covered_append _ _ _).2 (Or.inl htaken)
      rw [if_pos htaken] at hrest
      rw [if_pos htaken, if_pos hall]
      exact hrest
    · have hall : Covered (taken ++ all) i ↔ Covered later (carried taken i) := by
        rw [covered_append, h i htaken]
        exact or_iff_right htaken
      rw [if_neg htaken] at hrest
      rw [if_neg htaken, outsideFrom, hrest]
      simp only [hall]

/-! ## Script blocks in what is left -/

/-- the remains of the script matches when the style matches are taken out, without the empty ones -/
def remains (text : List Char) : List Span :=
  ((spans .script text).map (Span.carry (spans .style text))).filter fun s => s.start < s.stop

theorem mem_remains {text : List Char} {s : Span} :
    s ∈ remains text ↔ (∃ m ∈ spans .script text, m.carry (spans .style text) = s) ∧ s.start < s.stop := by
  simp [remains]

/-- the script matches are not disturbed when the style matches are taken out: what remains of one is empty or a block
again, and no block begins elsewhere -/
structure Undisturbed (text : List Char) : Prop where
  survive : ∀ s ∈ remains text, blockEnd? .script (remove .style text) s.start = some s.stop
  no_other : ∀ i, (blockEnd? .script (remove .style text) i).isSome → Covered (remains text) i

theorem ordered_remains (text : List Char) : (remains text).Pairwise fun s s' => s.stop ≤ s'.start := by
  apply List.Pairwise.filter
  rw [List.pairwise_map]
  exact (scan_spans .script text).ordered.imp fun hle => carried_mono _ hle

/-- **The script blocks that are taken out** are the remains of the script matches exactly when these are not
disturbed. -/
theorem spans_left_iff (text : List Char) : spans .script (remove .style text) = remains text ↔ Undisturbed text := by
  constructor
  · intro hspans
    have hscan := hspans ▸ scan_spans .script (remove .style text)
    exact ⟨hscan.stands, fun i => hscan.covers i (Nat.zero_le i)⟩
  · intro h
    refine (scan_spans .script (remove .style text)).unique ⟨ordered_remains text, ?_, h.survive, ?_⟩
    · intro s _
      exact Nat.zero_le _
    · intro i _
      exact h.no_other i

theorem covered_remains_iff {text : List Char} {i : Nat} (hi : ¬ Covered (spans .style text) i) :
    Covered (remains text) (carried (spans .style text) i) ↔ Covered (spans .script text) i := by
  constructor
  · rintro ⟨s, hs, hcovers⟩
    obtain ⟨⟨m, hm, rfl⟩, -⟩ := mem_remains.1 hs
    exact ⟨m, hm, (covers_carry_iff m hi).1 hcovers⟩
  · rintro ⟨m, hm, hcovers⟩
    have hcarry := (covers_carry_iff m hi).2 hcovers
    exact ⟨m.carry (spans .style text), mem_remains.2 ⟨⟨m, hm, rfl⟩, Nat.lt_of_le_of_lt hcarry.1 hcarry.2⟩, hcarry⟩

theorem strip_eq_outside {text : List Char} (h : Undisturbed text) :
    strip text = outside (spans .style text ++ spans .script text) text := by
  calc strip text
      = outside (remains text) (remove .style text) := by
        rw [strip, remove_eq_outside .script, (spans_left_iff text).2 h]
    _ = outside (remains text) (outside (spans .style text) text) := by rw [remove_eq_outside .style]
    _ = outside (spans .style text ++ spans .script text) text :=
        outsideFrom_outsideFrom 0 text fun j hj => covered_remains_iff hj

/-! ### Matches that do not overlap -/

/-- a span that does not meet the others keeps its length -/
theorem carried_add {taken : List Span} {i n : Nat} (h : ∀ j, i ≤ j → j < i + n → ¬ Covered taken j) :
    carried taken (i + n) = carried taken i + n := by
  induction n with
  | zero => rfl
  | succ n ih =>
    have hn := ih fun j hj hlt => h j hj (by omega)
    have hlast := h (i + n) (Nat.le_add_right i n) (by omega)
    rw [← Nat.add_assoc, carried, if_neg hlast, hn]
    omega

/-- a script match that no style match meets is still a block when the style matches are gone -/
theorem survive_of_apart {text : List Char} (h : Apart text) {s : Span} (hs : s ∈ remains text) :
    blockEnd? .script (remove .style text) s.start = some s.stop := by
  obtain ⟨⟨m, hm, rfl⟩, -⟩ := mem_remains.1 hs
  obtain ⟨m, hfound, rfl⟩ := List.mem_map.1 hm
  obtain ⟨hblock, htext⟩ := mem_found hfound
  have hfree : ∀ j, m.start ≤ j → j < m.start + m.block.text.length → ¬ Covered (spans .style text) j := by
    intro j hj hlt hstyle
    exact (not_covered_both_iff text).2 h j ⟨hstyle, m.span, hm, hj, hlt⟩
  refine blockEnd?_eq_some_iff.2 ⟨m.block, outsideFrom (spans .style text) m.stop (text.drop m.stop), ?_, hblock, ?_⟩
  · rw [remove_eq_outside, Span.carry, Match.span]
    simp only
    rw [drop_carried, htext, outsideFrom_append, outsideFrom_eq_self hfree]
    rfl
  · exact carried_add hfree

/-! ## The markup -/

/-- **What is taken out of the markup.** The markup is the source without its style matches, and without the script
blocks found in what is left. These are the remains of the script matches of the source exactly when the script matches
are not disturbed, and then the markup is the source without the spans of its matches. Matches that do not overlap are
disturbed only by script blocks that begin elsewhere. -/
theorem markup_eq_outside_iff {path : Path} {content : String} {compiled : Compiled}
    (h : compile path content none = .ok compiled) :
    let text := content.toList
    let left := outside (spans .style text) text
    compiled.markup.toList = outside (spans .script left) left ∧
      (spans .script left = remains text ↔ Undisturbed text) ∧
      (Undisturbed text → compiled.markup.toList = outside (spans .style text ++ spans .script text) text) ∧
      (Apart text → (Undisturbed text ↔ ∀ i, (blockEnd? .script left i).isSome → Covered (remains text) i)) := by
  intro text left
  obtain ⟨-, hmarkup, -, -⟩ := compile_ok h
  have hleft : remove .style text = left := remove_eq_outside .style text
  refine ⟨?_, ?_, ?_, ?_⟩
  · rw [hmarkup, Option.elim_none, strip, hleft, remove_eq_outside]
  · rw [← hleft]
    exact spans_left_iff text
  · intro hundisturbed
    rw [hmarkup, Option.elim_none]
    exact strip_eq_outside hundisturbed
  · intro hapart
    rw [← hleft]
    constructor
    · exact Undisturbed.no_other
    · intro hno
      exact ⟨fun s hs => survive_of_apart hapart hs, hno⟩

/-- a style block in a string of a script does not disturb it -/
theorem nested_style_undisturbed :
    let content := "<p>Hi</p><script>t = '<style>a</style>'</script>"
    let text := content.toList
    compile (.ofString "x/a.webc") content none =
        .ok { markup := "<p>Hi</p>", stylesheets := ["a"], scripts := ["t = '<style>a</style>'"],
              sources := [.ofString "x/a.webc"] } ∧
      Undisturbed text ∧ "<p>Hi</p>".toList = outside (spans .style text ++ spans .script text) text := by
  intro content text
  have hcompile : compile (.ofString "x/a.webc") content none =
      .ok { markup := "<p>Hi</p>", stylesheets := ["a"], scripts := ["t = '<style>a</style>'"],
            sources := [.ofString "x/a.webc"] } := by decide +kernel
  obtain ⟨-, hremains, hmarkup, -⟩ := markup_eq_outside_iff hcompile
  have hundisturbed : Undisturbed text := by
    apply hremains.1
    decide +kernel
  exact ⟨hcompile, hundisturbed, hmarkup hundisturbed⟩

/-- two parts that come together when a style block between them is taken out: what they say is in no script, nor in the
markup -/
theorem joined_script_dropped :
    let content := "<scr<style>a</style>ipt>lost</script>"
    let text := content.toList
    compile (.ofString "x/a.webc") content none =
        .ok { markup := "", stylesheets := ["a"], scripts := [], sources := [.ofString "x/a.webc"] } ∧
      outside (spans .style text ++ spans .script text) text = "<script>lost</script>".toList := by
  decide +kernel

/-- a script match that a style match breaks: its text is in a script and in the markup -/
example :
    let content := "<style>a<script>b</style>c</script>d"
    let text := content.toList
    compile (.ofString "x/a.webc") content none =
        .ok { markup := "c</script>d", stylesheets := ["a<script>b"], scripts := ["b</style>c"],
              sources := [.ofString "x/a.webc"] } ∧
      outside (spans .style text ++ spans .script text) text = "d".toList := by
  decide +kernel

end ComponentCompiler.Template
