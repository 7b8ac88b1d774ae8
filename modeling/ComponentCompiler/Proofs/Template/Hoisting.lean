import ComponentCompiler.Proofs.Template.Matches

/-!
What is hoisted out of a template, and from where.

Stylesheets and scripts are the texts at certain spans of the source (`extract_eq_hoistedTexts`). The two kinds of block
are looked for one without the other, so a block of one kind can be found inside a block of the other and its text
hoisted twice; `style_in_script_hoisted_twice` shows a script with a style block in one of its strings.
`hoisted_once_iff` says when this does not happen: the matches of the two kinds do not overlap exactly when no block of
one kind begins in the opening tag or in the body of a match of the other kind.
-/

namespace ComponentCompiler.Template

open Text

/-! ## Hoisted texts -/

def hoistedSpans (kind : BlockKind) (text : List Char) : List Span :=
  (found kind text).map Match.hoisted

/-- the texts at these spans, without the empty ones -/
def hoistedTexts (kind : BlockKind) (text : List Char) : List String :=
  (((hoistedSpans kind text).map (·.slice text)).filter (!·.isEmpty)).map String.ofList

/-- a text is blanks, what trimming leaves of it, and something at its end -/
theorem exists_trail (text : List Char) : ∃ trail, text = text.takeWhile isBlank ++ (trim text ++ trail) := by
  obtain ⟨trail, htrail⟩ := List.rdropWhile_prefix isBlank (text.dropWhile isBlank)
  refine ⟨trail, ?_⟩
  rw [trim_eq_rdropWhile, htrail, List.takeWhile_append_dropWhile]

theorem map_block_locate (start : Nat) (blocks : List (List Char × Block)) :
    (locate start blocks).map Match.block = blocks.map Prod.snd := by
  induction blocks generalizing start with
  | nil => rfl
  | cons cut blocks ih => rw [locate, List.map_cons, List.map_cons, ih]

theorem slice_hoisted {kind : BlockKind} {text : List Char} {m : Match} (hm : m ∈ found kind text) :
    m.hoisted.slice text = trim m.block.body := by
  obtain ⟨-, htext⟩ := mem_found hm
  obtain ⟨trail, htrail⟩ := exists_trail m.block.body
  have hat : text.drop m.bodyStart = trim m.block.body ++ (trail ++ (m.block.closing ++ text.drop m.stop)) :=
    calc text.drop m.bodyStart
        = (m.block.body ++ (m.block.closing ++ text.drop m.stop)).drop (m.block.body.takeWhile isBlank).length := by
          rw [Match.bodyStart, ← List.drop_drop, drop_behind_opening htext]
      _ = (m.block.body.takeWhile isBlank ++
            (trim m.block.body ++ (trail ++ (m.block.closing ++ text.drop m.stop)))).drop
              (m.block.body.takeWhile isBlank).length := by
          congr 1
          nth_rewrite 1 [htrail]
          simp only [List.append_assoc]
      _ = _ := List.drop_left
  exact slice_of_drop hat rfl

/-- what is extracted are the trimmed bodies of the matches -/
theorem extract_eq_bodies (kind : BlockKind) (text : List Char) :
    extract kind text =
      (((found kind text).map fun m => trim m.block.body).filter (!·.isEmpty)).map String.ofList := by
  have hblocks : (split kind text).blocks.map Prod.snd = (found kind text).map Match.block :=
    (map_block_locate 0 _).symm
  have hbodies : (split kind text).bodies = ((found kind text).map fun m => trim m.block.body).filter (!·.isEmpty) := by
    calc (split kind text).bodies
        = (((split kind text).blocks.map Prod.snd).map fun block => trim block.body).filter (!·.isEmpty) := by
          rw [List.map_map]
          rfl
      _ = ((found kind text).map fun m => trim m.block.body).filter (!·.isEmpty) := by
          rw [hblocks, List.map_map]
          rfl
  rw [extract, hbodies]

/-- what is extracted are the texts at the spans of the trimmed bodies -/
theorem extract_eq_hoistedTexts (kind : BlockKind) (text : List Char) : extract kind text = hoistedTexts kind text := by
  have hslices : (hoistedSpans kind text).map (·.slice text) = (found kind text).map fun m => trim m.block.body := by
    rw [hoistedSpans, List.map_map]
    exact List.map_congr_left fun m hm => slice_hoisted hm
  rw [extract_eq_bodies, hoistedTexts, hslices]

/-- a trimmed body lies inside its block -/
theorem covers_of_hoisted {m : Match} {i : Nat} (h : m.hoisted.Covers i) : m.span.Covers i := by
  obtain ⟨trail, htrail⟩ := exists_trail m.block.body
  have hlength := congrArg List.length htrail
  simp only [List.length_append] at hlength
  obtain ⟨hstart, hstop⟩ := h
  simp only [Match.hoisted, Match.bodyStart] at hstart hstop
  constructor
  · simp only [Match.span]
    omega
  · simp only [Match.span, Match.stop, Block.text, List.length_append]
    omega

theorem covered_of_hoisted {kind : BlockKind} {text : List Char} {i : Nat} (h : Covered (hoistedSpans kind text) i) :
    Covered (spans kind text) i := by
  obtain ⟨s, hs, hcovers⟩ := h
  obtain ⟨m, hm, rfl⟩ := List.mem_map.1 hs
  exact ⟨m.span, List.mem_map_of_mem hm, covers_of_hoisted hcovers⟩

/-! ## Matches of the two kinds -/

/-- no block of one kind begins inside a match of the other, in its opening tag or in its body -/
def Apart (text : List Char) : Prop :=
  ∀ kind, ∀ m ∈ found kind text, ∀ i, m.start < i → i < m.closingStart → blockAt? kind.other (text.drop i) = none

/-- where a block of the other kind begins inside a match, it begins before the closing tag -/
theorem lt_closingStart {kind kind' : BlockKind} {text : List Char} {m : Match} (hm : m ∈ found kind text) {i : Nat}
    (hcovers : m.span.Covers i) (h : (blockAt? kind' (text.drop i)).isSome) : i < m.closingStart := by
  by_contra hge
  obtain ⟨hblock, htext⟩ := mem_found hm
  obtain ⟨k, rfl⟩ := Nat.exists_eq_add_of_le (Nat.le_of_not_lt hge)
  have hk : k < m.block.closing.length := by
    have hstop := hcovers.2
    simp only [Match.span, Match.stop, Match.closingStart, Block.text, List.length_append] at hstop
    omega
  have hat : text.drop (m.closingStart + k) = m.block.closing.drop k ++ text.drop m.stop := by
    rw [← List.drop_drop, drop_closingStart htext, List.drop_append_of_le_length hk.le]
  rw [hat, blockAt?_in_closing hblock.closing hk] at h
  cases h

/-- of two matches that share a place, the later one begins inside the other -/
theorem Apart.not_covered {text : List Char} (h : Apart text) {kind : BlockKind} {m m' : Match}
    (hm : m ∈ found kind text) (hm' : m' ∈ found kind.other text) (hle : m.start ≤ m'.start) {i : Nat}
    (hi : m.span.Covers i)
    (hi' : m'.span.Covers i) : False := by
  have hstands : (blockAt? kind.other (text.drop m'.start)).isSome := by
    rw [blockAt?_of_mem_found hm']
    rfl
  rcases Nat.eq_or_lt_of_le hle with heq | hlt
  · have hnone : blockAt? kind.other (text.drop m.start) = none := by
      apply blockAt?_other
      rw [blockAt?_of_mem_found hm]
      rfl
    rw [← heq, hnone] at hstands
    cases hstands
  · have hinside : m.span.Covers m'.start := ⟨hle, Nat.lt_of_le_of_lt hi'.1 hi.2⟩
    have hnone := h kind m hm m'.start hlt (lt_closingStart hm hinside hstands)
    rw [hnone] at hstands
    cases hstands

/-- matches of the two kinds share no place exactly when none begins inside one of the other kind -/
theorem not_covered_both_iff (text : List Char) :
    (∀ i, ¬ (Covered (spans .style text) i ∧ Covered (spans .script text) i)) ↔ Apart text := by
  constructor
  · intro hdisjoint kind m hm i hlt hclosing
    rw [← Option.not_isSome_iff_eq_none]
    intro hsome
    have hother := covered_of_blockAt? hsome
    have hown : Covered (spans kind text) i := by
      refine ⟨m.span, List.mem_map_of_mem hm, hlt.le, ?_⟩
      simp only [Match.closingStart] at hclosing
      simp only [Match.span, Match.stop, Block.text, List.length_append]
      omega
    cases kind with
    | style => exact hdisjoint i ⟨hown, hother⟩
    | script => exact hdisjoint i ⟨hother, hown⟩
  · rintro hapart i ⟨⟨s, hs, hi⟩, ⟨s', hs', hi'⟩⟩
    obtain ⟨m, hm, rfl⟩ := List.mem_map.1 hs
    obtain ⟨m', hm', rfl⟩ := List.mem_map.1 hs'
    rcases Nat.le_total m.start m'.start with hle | hle
    · exact hapart.not_covered hm hm' hle hi hi'
    · exact hapart.not_covered hm' hm hle hi' hi

/-- **What is hoisted once.** Stylesheets and scripts are the texts at the spans of the trimmed bodies. The matches of
the two kinds do not overlap exactly when no block of one kind begins inside a match of the other, and then no character
of the source goes both to a stylesheet and to a script. -/
theorem hoisted_once_iff {path : Path} {content : String} {data : Option (List (String × String))} {compiled : Compiled}
    (h : compile path content data = .ok compiled) :
    let text := content.toList
    compiled.stylesheets = hoistedTexts .style text ∧ compiled.scripts = hoistedTexts .script text ∧
      ((∀ i, ¬ (Covered (spans .style text) i ∧ Covered (spans .script text) i)) ↔ Apart text) ∧
      (Apart text → ∀ i, ¬ (Covered (hoistedSpans .style text) i ∧ Covered (hoistedSpans .script text) i)) := by
  intro text
  obtain ⟨-, -, hstyles, hscripts⟩ := compile_ok h
  refine ⟨?_, ?_, not_covered_both_iff text, ?_⟩
  · rw [hstyles, extract_eq_hoistedTexts]
  · rw [hscripts, extract_eq_hoistedTexts]
  · rintro hapart i ⟨hstyle, hscript⟩
    exact (not_covered_both_iff text).2 hapart i ⟨covered_of_hoisted hstyle, covered_of_hoisted hscript⟩

/-- a style block and a script block one after the other -/
theorem blocks_in_turn_hoisted_once :
    let content := "<style>a</style><script>b</script>"
    let text := content.toList
    compile (.ofString "x/a.webc") content none =
        .ok { markup := "", stylesheets := ["a"], scripts := ["b"], sources := [.ofString "x/a.webc"] } ∧
      Apart text ∧ ∀ i, ¬ (Covered (hoistedSpans .style text) i ∧ Covered (hoistedSpans .script text) i) := by
  intro content text
  have hcompile : compile (.ofString "x/a.webc") content none =
      .ok { markup := "", stylesheets := ["a"], scripts := ["b"], sources := [.ofString "x/a.webc"] } := by
    decide +kernel
  obtain ⟨-, -, hiff, honce⟩ := hoisted_once_iff hcompile
  have hapart : Apart text := by
    apply hiff.1
    have hstyle : spans .style text = [⟨0, 16⟩] := by decide +kernel
    have hscript : spans .script text = [⟨16, 34⟩] := by decide +kernel
    rintro i ⟨hi, hi'⟩
    rw [hstyle, covered_cons] at hi
    rw [hscript, covered_cons] at hi'
    simp only [covered_nil, or_false, Span.Covers] at hi hi'
    omega
  exact ⟨hcompile, hapart, honce hapart⟩

/-- the text of a style block in a string of a script goes to a stylesheet and to the script -/
theorem style_in_script_hoisted_twice :
    let content := "<script>t = '<style>a</style>'</script>"
    let text := content.toList
    compile (.ofString "x/a.webc") content none =
        .ok { markup := "", stylesheets := ["a"], scripts := ["t = '<style>a</style>'"],
              sources := [.ofString "x/a.webc"] } ∧
      Covered (spans .style text) 20 ∧ Covered (spans .script text) 20 ∧
      Covered (hoistedSpans .style text) 20 ∧ Covered (hoistedSpans .script text) 20 := by
  decide +kernel

end ComponentCompiler.Template
