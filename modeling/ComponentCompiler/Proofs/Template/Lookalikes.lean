import ComponentCompiler.Proofs.Template.Hoisting

/-!
Elements that are taken for blocks.

Two notions of an opening tag meet in a template. The search for blocks lets a name end where no word character follows,
the check for openings only before white space, `/`, `>` and the end of the text. They differ on elements such as
`<style-guide>`: the check passes over it, but the search takes it for the beginning of a block if a closing tag of the
kind comes anywhere later (`blockAt?_isSome_iff`). `style_guide_hoisted` shows that all from `<style-guide>` to the end
of the next style block then becomes a stylesheet.

`blocks_begin_tags_iff` says when this does not happen: all blocks that compiling finds begin with an opening tag
exactly when every such element lies inside a block that began before it.
-/

namespace ComponentCompiler.Template

open Text

/-! ## Two notions of an opening tag -/

/-- an opening tag of either kind stands at the place, as the check for openings sees it -/
def OpensAt (text : List Char) (i : Nat) : Prop :=
  ∃ kind, (openName? kind (text.drop i)).isSome

instance (text : List Char) (i : Nat) : Decidable (OpensAt text i) :=
  decidable_of_iff ((openName? .style (text.drop i)).isSome ∨ (openName? .script (text.drop i)).isSome) <| by
    constructor
    · rintro (h | h)
      · exact ⟨.style, h⟩
      · exact ⟨.script, h⟩
    · rintro ⟨kind, h⟩
      cases kind with
      | style => exact Or.inl h
      | script => exact Or.inr h

/-- somewhere in the text a `>` stands, and somewhere behind it a closing tag -/
def Closes (kind : BlockKind) (text : List Char) : Prop :=
  ∃ front body closing rest, text = front ++ '>' :: (body ++ (closing ++ rest)) ∧ closing.map foldChar = kind.closeWord

/-- an element at the place whose name only begins like that of a kind: after it comes a character that neither belongs
to a word nor ends the name of a tag. Somewhere later the kind is closed. -/
def Lookalike (kind : BlockKind) (text : List Char) (i : Nat) : Prop :=
  ∃ name c after, text.drop i = name ++ c :: after ∧ name.map foldChar = kind.openWord ∧ isWord c = false ∧
    endsName (c :: after) = false ∧ Closes kind (c :: after)

/-- what begins with the name of a kind begins with no other kind's name -/
theorem kind_eq_of_openWord {kind kind' : BlockKind} {name name' after after' : List Char}
    (hname : name.map foldChar = kind.openWord) (hname' : name'.map foldChar = kind'.openWord)
    (h : name ++ after = name' ++ after') : kind = kind' := by
  have hword : kind.openWord ++ after.map foldChar = kind'.openWord ++ after'.map foldChar := by
    rw [← hname, ← hname', ← List.map_append, ← List.map_append, h]
  have hcomparable : kind.openWord <+: kind'.openWord ∨ kind'.openWord <+: kind.openWord := by
    apply List.prefix_or_prefix_of_prefix (List.prefix_append kind.openWord (after.map foldChar))
    rw [hword]
    exact List.prefix_append _ _
  revert hcomparable
  cases kind <;> cases kind' <;> decide

/-- where the name of a kind stands, the check sees an opening exactly if the name ends there -/
theorem opensAt_iff {kind : BlockKind} {text name after : List Char} {i : Nat} (htext : text.drop i = name ++ after)
    (hname : name.map foldChar = kind.openWord) : OpensAt text i ↔ endsName after = true := by
  have hstart : foldedStart? ('<' :: kind.word) (name ++ after) = some (name, after) :=
    foldedStart?_eq_some_iff.2 ⟨rfl, hname⟩
  rw [OpensAt, htext]
  constructor
  · rintro ⟨kind', hsome⟩
    obtain ⟨found, hfound⟩ := Option.isSome_iff_exists.1 hsome
    have hkind : kind = kind' := by
      unfold openName? at hfound
      split at hfound
      · next written rest hwritten =>
        obtain ⟨hsame, hword⟩ := foldedStart?_eq_some_iff.1 hwritten
        exact kind_eq_of_openWord hname hword hsame
      · cases hfound
    subst hkind
    rw [openName?, hstart] at hfound
    by_contra hends
    simp [hends] at hfound
  · intro hends
    refine ⟨kind, ?_⟩
    simp [openName?, hstart, hends]

theorem Lookalike.not_opensAt {kind : BlockKind} {text : List Char} {i : Nat} (h : Lookalike kind text i) :
    ¬ OpensAt text i := by
  obtain ⟨name, c, after, htext, hname, -, hends, -⟩ := h
  rw [opensAt_iff htext hname, hends]
  decide

/-! ## Where a search finds a block -/

theorem untilClosing_isSome {kind : BlockKind} {text closing rest : List Char}
    (hclosing : closing.map foldChar = kind.closeWord) (h : closing ++ rest <:+ text) :
    (untilClosing kind text).isSome := by
  rw [Option.isSome_iff_ne_none]
  intro hnone
  have hclose : closing? kind (closing ++ rest) = some (closing, rest) := foldedStart?_eq_some_iff.2 ⟨rfl, hclosing⟩
  rw [untilClosing_eq_none hnone h] at hclose
  cases hclose

/-- **Where the search finds a block.** Behind a name that ends as a word does, a block comes of it exactly if the kind
is closed anywhere later. -/
theorem blockAt?_isSome_iff {kind : BlockKind} {name after : List Char} (hname : name.map foldChar = kind.openWord)
    (hword : endsWord after = true) : (blockAt? kind (name ++ after)).isSome ↔ Closes kind after := by
  have hstart : tagStart? kind (name ++ after) = some (name, after) := tagStart?_eq_some_iff.2 ⟨rfl, hname, hword⟩
  constructor
  · intro hsome
    obtain ⟨⟨block, rest⟩, hblock⟩ := Option.isSome_iff_exists.1 hsome
    simp only [blockAt?, opening?, hstart] at hblock
    cases hthrough : throughAngle after with
    | none => simp [hthrough] at hblock
    | some taken =>
      obtain ⟨attributes, behind⟩ := taken
      simp only [hthrough, Option.map_some, Option.map_eq_some_iff, Prod.exists] at hblock
      obtain ⟨body, closing, rest', hclosed, -⟩ := hblock
      obtain ⟨front, rfl, -⟩ := throughAngle_eq_some hthrough
      obtain ⟨rfl, hclosing, -⟩ := untilClosing_eq_some_iff.1 hclosed
      refine ⟨front, body, closing, rest', ?_, hclosing⟩
      simpa using throughAngle_eq hthrough
  · rintro ⟨front, body, closing, rest, rfl, hclosing⟩
    cases hthrough : throughAngle (front ++ '>' :: (body ++ (closing ++ rest))) with
    | none => exact absurd (by simp) (throughAngle_eq_none hthrough)
    | some taken =>
      obtain ⟨attributes, behind⟩ := taken
      obtain ⟨first, rfl, hfirst⟩ := throughAngle_eq_some hthrough
      -- the tag ends with the first `>`, which may come before the one that is given
      have hbehind : body ++ (closing ++ rest) <:+ behind := by
        have hopened : (front ++ ['>']) ++ (body ++ (closing ++ rest)) <:+ first ++ '>' :: behind := by
          have heq := throughAngle_eq hthrough
          simp only [List.append_assoc, List.singleton_append] at heq ⊢
          rw [heq]
        exact suffix_after_angle hfirst (by simp) hopened
      have hclosed := untilClosing_isSome hclosing ((List.suffix_append body _).trans hbehind)
      simp [blockAt?, opening?, hstart, hthrough, hclosed]

theorem Lookalike.blockAt? {kind : BlockKind} {text : List Char} {i : Nat} (h : Lookalike kind text i) :
    (blockAt? kind (text.drop i)).isSome := by
  obtain ⟨name, c, after, htext, hname, hword, -, hcloses⟩ := h
  rw [htext, blockAt?_isSome_iff hname (by simp [endsWord, hword])]
  exact hcloses

/-- a block begins with an opening tag, or with an element that only looks like one -/
theorem opensAt_or_lookalike {kind : BlockKind} {text : List Char} {i : Nat}
    (h : (blockAt? kind (text.drop i)).isSome) :
    OpensAt text i ∨ Lookalike kind text i := by
  obtain ⟨⟨block, rest⟩, hblock⟩ := Option.isSome_iff_exists.1 h
  obtain ⟨htext, ⟨name, front, hopening, hname, -, hword⟩, -, -⟩ := blockAt?_eq_some_iff.1 hblock
  have hat : text.drop i = name ++ (front ++ '>' :: (block.body ++ (block.closing ++ rest))) := by
    rw [htext, Block.text, hopening]
    simp
  rw [opensAt_iff hat hname]
  cases front with
  | nil => exact Or.inl rfl
  | cons c front =>
    cases hends : endsName (c :: front ++ '>' :: (block.body ++ (block.closing ++ rest))) with
    | true => exact Or.inl rfl
    | false =>
      refine Or.inr ⟨name, c, front ++ '>' :: (block.body ++ (block.closing ++ rest)), hat, hname, ?_, hends, ?_⟩
      · simpa [endsWord] using hword
      · rw [hat] at h
        exact (blockAt?_isSome_iff hname (by simpa [endsWord] using hword)).1 h

/-! ## All blocks of a text -/

/-- every block that is found begins with an opening tag -/
def BeginTags (kind : BlockKind) (text : List Char) : Prop :=
  ∀ m ∈ found kind text, OpensAt text m.start

instance (kind : BlockKind) (text : List Char) : Decidable (BeginTags kind text) :=
  inferInstanceAs (Decidable (∀ m ∈ found kind text, OpensAt text m.start))

/-- every element that looks like an opening tag lies inside a block that began before it -/
def LookalikesInside (kind : BlockKind) (text : List Char) : Prop :=
  ∀ i, Lookalike kind text i → ∃ m ∈ found kind text, m.start < i ∧ i < m.stop

/-- no match begins inside another -/
theorem not_start_inside {kind : BlockKind} {text : List Char} {m m' : Match} (hm : m ∈ found kind text)
    (hm' : m' ∈ found kind text) : ¬ (m.start < m'.start ∧ m'.start < m.stop) := by
  have hscan := scan_spans kind text
  have hordered : (found kind text).Pairwise fun a b => a.stop ≤ b.start := List.pairwise_map.1 hscan.ordered
  have hlt : ∀ a ∈ found kind text, a.start < a.stop := by
    intro a ha
    exact lt_of_blockEnd? (hscan.stands a.span (List.mem_map_of_mem ha))
  refine List.Pairwise.forall_of_forall_of_flip
    (R := fun a b : Match => ¬ (a.start < b.start ∧ b.start < a.stop)) ?_ ?_ ?_ hm hm'
  · intro a _
    omega
  · refine hordered.imp ?_
    intro a b hle
    omega
  · refine hordered.imp_of_mem ?_
    intro a b ha _ hle
    have := hlt a ha
    simp only [flip]
    omega

/-- the blocks that are found begin with opening tags exactly when what only looks like one lies inside a block -/
theorem beginTags_iff (kind : BlockKind) (text : List Char) : BeginTags kind text ↔ LookalikesInside kind text := by
  constructor
  · intro hbegin i hlook
    obtain ⟨s, hs, hcovers⟩ := covered_of_blockAt? hlook.blockAt?
    obtain ⟨m, hm, rfl⟩ := List.mem_map.1 hs
    refine ⟨m, hm, ?_, hcovers.2⟩
    apply lt_of_le_of_ne hcovers.1
    rintro rfl
    exact hlook.not_opensAt (hbegin m hm)
  · intro hinside m hm
    have hblock : (blockAt? kind (text.drop m.start)).isSome := by
      rw [blockAt?_of_mem_found hm]
      rfl
    rcases opensAt_or_lookalike hblock with hopens | hlook
    · exact hopens
    · obtain ⟨m', hm', hin⟩ := hinside m.start hlook
      exact absurd hin (not_start_inside hm' hm)

/-- **What begins a block.** Compiling looks for style blocks and for script blocks in the source, and for script blocks
once more in what is left without the style blocks. In none of these searches does an element whose name only begins
like that of a block begin one, exactly when each such element lies inside a block that began before it. -/
theorem blocks_begin_tags_iff (content : String) :
    let text := content.toList
    let left := outside (spans .style text) text
    (∀ path data compiled, compile path content data = .ok compiled →
      compiled.stylesheets = hoistedTexts .style text ∧ compiled.scripts = hoistedTexts .script text ∧
        (data = none → compiled.markup = String.ofList (outside (spans .script left) left))) ∧
    ((BeginTags .style text ∧ BeginTags .script text ∧ BeginTags .script left) ↔
      LookalikesInside .style text ∧ LookalikesInside .script text ∧ LookalikesInside .script left) := by
  intro text left
  refine ⟨?_, ?_⟩
  · intro path data compiled h
    obtain ⟨-, hmarkup, hstyles, hscripts⟩ := compile_ok h
    refine ⟨?_, ?_, ?_⟩
    · rw [hstyles, extract_eq_hoistedTexts]
    · rw [hscripts, extract_eq_hoistedTexts]
    · rintro rfl
      rw [← String.ofList_toList (s := compiled.markup), hmarkup]
      simp only [Option.elim_none, strip, remove_eq_outside, left, text]
  · simp only [beginTags_iff]

/-- an element like a style tag inside a style block -/
theorem lookalike_in_style_inside :
    let content := "<style>a <style-b> c</style><p></p>"
    let text := content.toList
    BeginTags .style text ∧ Lookalike .style text 9 ∧ (∃ m ∈ found .style text, m.start < 9 ∧ 9 < m.stop) ∧
      compile (.ofString "x/a.webc") content none =
        .ok { markup := "<p></p>", stylesheets := ["a <style-b> c"], scripts := [],
              sources := [.ofString "x/a.webc"] } ∧
      hoistedTexts .style text = ["a <style-b> c"] := by
  intro content text
  have hbegin : BeginTags .style text ∧ BeginTags .script text ∧
      BeginTags .script (outside (spans .style text) text) := by
    decide +kernel
  have hlook : Lookalike .style text 9 :=
    ⟨"<style".toList, '-', "b> c</style><p></p>".toList, by decide, by decide, by decide, by decide,
      "-b".toList, " c".toList, "</style>".toList, "<p></p>".toList, by decide, by decide⟩
  have hcompile : compile (.ofString "x/a.webc") content none =
      .ok { markup := "<p></p>", stylesheets := ["a <style-b> c"], scripts := [],
            sources := [.ofString "x/a.webc"] } := by
    decide +kernel
  obtain ⟨hparts, hiff⟩ := blocks_begin_tags_iff content
  exact ⟨hbegin.1, hlook, (hiff.1 hbegin).1 9 hlook, hcompile, (hparts _ _ _ hcompile).1.symm⟩

/-- an element named like a style tag is taken for one, and what follows it goes to the stylesheet with it -/
theorem style_guide_hoisted :
    let content := "<style-guide></style-guide><style>a</style>"
    let text := content.toList
    compile (.ofString "x/a.webc") content none =
        .ok { markup := "", stylesheets := ["</style-guide><style>a"], scripts := [],
              sources := [.ofString "x/a.webc"] } ∧
      (found .style text).map Match.start = [0] ∧ ¬ OpensAt text 0 ∧ ¬ BeginTags .style text ∧ OpensAt text 27 := by
  decide +kernel

end ComponentCompiler.Template
