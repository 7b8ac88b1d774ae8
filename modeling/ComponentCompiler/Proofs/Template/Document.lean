import ComponentCompiler.Assembly
import ComponentCompiler.Proofs.Text

/-!
Documents as an author writes them: text, style blocks and script blocks in any order.

A block is written with its name in any case, attributes after white space, a body and its closing tag. A body mentions
no opening tag and not its own closing tag; the text outside the blocks, taken together, mentions no opening tag. These
conditions are part of the types `WrittenBlock` and `Document`.

`compile_document`: compiling a document gives back its parts. The markup is the text outside the blocks, the
stylesheets and the scripts are the bodies that are not blank, trimmed and in order, and the component assembled from
them has the first stylesheet and all scripts, one below the other.

The two kinds of block are looked for one after the other, the scripts in what is left without the styles. Both searches
are followed segment by segment: `Quiet` says that no tag starts inside a segment, so a search passes over it
(`remove_append`, `extract_append`), and a block of the kind that is looked for is found where it starts
(`blockAt?_written`).
-/

namespace ComponentCompiler.Template

open Text

/-! ## Documents -/

def BlockKind.openWord (kind : BlockKind) : List Char :=
  '<' :: kind.word

def BlockKind.closeWord (kind : BlockKind) : List Char :=
  '<' :: '/' :: kind.word ++ ['>']

/-- a block as written: the names of its two tags in any case of ASCII letters, its attributes and its body -/
structure WrittenBlock where
  kind : BlockKind
  openName : List Char
  attributes : List Char
  body : List Char
  closeName : List Char
  openName_word : openName.map Char.toLower = kind.word
  closeName_word : closeName.map Char.toLower = kind.word
  attributes_blank : ∀ c ∈ attributes.head?, isBlank c
  attributes_plain : '<' ∉ attributes ∧ '>' ∉ attributes
  body_plain : ∀ other : BlockKind, ¬ FoldedIn other.openWord body
  body_closed : ¬ FoldedIn kind.closeWord body

namespace WrittenBlock

def opening (b : WrittenBlock) : List Char :=
  '<' :: b.openName ++ b.attributes ++ ['>']

def closing (b : WrittenBlock) : List Char :=
  '<' :: '/' :: b.closeName ++ ['>']

def text (b : WrittenBlock) : List Char :=
  b.opening ++ b.body ++ b.closing

end WrittenBlock

inductive Segment where
  | plain (text : List Char)
  | block (b : WrittenBlock)

namespace Segment

def text : Segment → List Char
  | .plain text => text
  | .block b => b.text

def outside : Segment → List Char
  | .plain text => text
  | .block _ => []

/-- the body of a block of a kind -/
def body? (kind : BlockKind) : Segment → Option (List Char)
  | .plain _ => none
  | .block b => if b.kind = kind then some b.body else none

def isBlock (kind : BlockKind) (s : Segment) : Bool :=
  (s.body? kind).isSome

end Segment

/-- segments in order, with no opening tag in the text outside the blocks -/
structure Document where
  segments : List Segment
  outside_plain : ∀ kind : BlockKind, ¬ FoldedIn kind.openWord (segments.flatMap Segment.outside)

namespace Document

def text (doc : Document) : List Char :=
  doc.segments.flatMap Segment.text

def outside (doc : Document) : List Char :=
  doc.segments.flatMap Segment.outside

/-- the bodies of the blocks of a kind that hold more than white space, trimmed -/
def bodies (doc : Document) (kind : BlockKind) : List String :=
  ((doc.segments.filterMap (Segment.body? kind)).filter (·.any (!isBlank ·))).map fun body =>
    String.ofList (trim body)

end Document

/-! ## What a search passes over -/

theorem word_plain (kind : BlockKind) : '<' ∉ kind.word := by
  cases kind <;> decide

theorem word_ascii (kind : BlockKind) : ∀ w ∈ kind.word, w.toNat < 128 := by
  have hall : kind.word.all (·.toNat < 128) = true := by cases kind <;> decide
  simpa using hall

/-- the name of a tag holds no `<` -/
theorem name_plain {kind : BlockKind} {name : List Char} (h : name.map Char.toLower = kind.word) : '<' ∉ name := by
  intro hmem
  have hfold := map_foldChar_of_toLower h (word_ascii kind)
  have hangle : foldChar '<' = '<' := by decide
  exact word_plain kind (hfold ▸ hangle ▸ List.mem_map_of_mem hmem)

theorem tagStart?_eq_none {kind : BlockKind} {text : List Char} (h : foldedStart? kind.openWord text = none) :
    tagStart? kind text = none := by
  rw [BlockKind.openWord] at h
  rw [tagStart?, h]

theorem findBlock_append {kind : BlockKind} {part rest : List Char} (h : Quiet kind.openWord rest part) :
    findBlock kind (part ++ rest) =
      (findBlock kind rest).map fun (before, block, after) => (part ++ before, block, after) := by
  induction part with
  | nil => cases hf : findBlock kind rest <;> simp [hf]
  | cons c part ih =>
    have hstart : tagStart? kind (c :: (part ++ rest)) = none := tagStart?_eq_none h.1
    rw [List.cons_append, findBlock, hstart, ih h.2]
    cases findBlock kind rest <;> simp

theorem split_of_none {kind : BlockKind} {text : List Char} (h : findBlock kind text = none) :
    split kind text = ⟨[], text⟩ := by
  rw [split]
  split
  · rfl
  · next hsome => rw [h] at hsome; cases hsome

theorem split_of_some {kind : BlockKind} {text before after : List Char} {block : Block}
    (h : findBlock kind text = some (before, block, after)) :
    split kind text = ⟨(before, block) :: (split kind after).blocks, (split kind after).rest⟩ := by
  rw [split]
  split
  · next hnone => rw [h] at hnone; cases hnone
  · next hsome =>
    rw [h] at hsome
    cases hsome
    rfl

/-- a part in which no tag starts stays where it is -/
theorem remove_append {kind : BlockKind} {part rest : List Char} (h : Quiet kind.openWord rest part) :
    remove kind (part ++ rest) = part ++ remove kind rest := by
  have hfind := findBlock_append h
  cases hrest : findBlock kind rest with
  | none =>
    rw [hrest, Option.map_none] at hfind
    simp [remove, split_of_none hfind, split_of_none hrest, Pieces.outside]
  | some found =>
    obtain ⟨before, block, after⟩ := found
    rw [hrest, Option.map_some] at hfind
    simp [remove, split_of_some hfind, split_of_some hrest, Pieces.outside]

/-- a part in which no tag starts gives nothing -/
theorem extract_append {kind : BlockKind} {part rest : List Char} (h : Quiet kind.openWord rest part) :
    extract kind (part ++ rest) = extract kind rest := by
  have hfind := findBlock_append h
  cases hrest : findBlock kind rest with
  | none =>
    rw [hrest, Option.map_none] at hfind
    simp [extract, split_of_none hfind, split_of_none hrest, Pieces.bodies]
  | some found =>
    obtain ⟨before, block, after⟩ := found
    rw [hrest, Option.map_some] at hfind
    simp [extract, split_of_some hfind, split_of_some hrest, Pieces.bodies]

/-! ## Blocks as written -/

theorem throughAngle_append {front : List Char} (rest : List Char) (h : '>' ∉ front) :
    throughAngle (front ++ '>' :: rest) = some (front ++ ['>'], rest) := by
  induction front with
  | nil => simp [throughAngle]
  | cons c front ih =>
    simp only [List.mem_cons, not_or] at h
    have hc : (c == '>') = false := beq_eq_false_iff_ne.2 (Ne.symm h.1)
    simp [throughAngle, hc, ih h.2]

theorem untilClosing_append {kind : BlockKind} {body text closing after : List Char}
    (hbody : Quiet kind.closeWord text body) (hclose : closing? kind text = some (closing, after)) :
    untilClosing kind (body ++ text) = some (body, closing, after) := by
  induction body with
  | nil =>
    cases text with
    | nil => cases kind <;> simp [closing?, foldedStart?] at hclose
    | cons c rest => rw [List.nil_append, untilClosing, hclose]
  | cons c body ih =>
    have hnone : closing? kind (c :: (body ++ text)) = none := hbody.1
    rw [List.cons_append, untilClosing, hnone, ih hbody.2]
    rfl

namespace WrittenBlock

variable (b : WrittenBlock) (rest : List Char)

theorem openName_folded : ('<' :: b.openName).map foldChar = b.kind.openWord := by
  rw [List.map_cons, map_foldChar_of_toLower b.openName_word (word_ascii b.kind)]
  rfl

theorem closing_folded : b.closing.map foldChar = b.kind.closeWord := by
  have hname := map_foldChar_of_toLower b.closeName_word (word_ascii b.kind)
  simp only [closing, BlockKind.closeWord, List.map_cons, List.map_append, hname]
  rfl

/-- nothing of the block that follows belongs to the name -/
theorem endsWord_attributes : endsWord (b.attributes ++ '>' :: rest) := by
  have hangle : isWord '>' = false := by decide
  cases h : b.attributes with
  | nil => simp [endsWord, hangle]
  | cons c attributes =>
    have hc := b.attributes_blank c (by simp [h])
    simp [endsWord, isWord_of_isBlank hc]

theorem opening?_written : opening? b.kind (b.opening ++ rest) = some (b.opening, rest) := by
  have hname : foldedStart? b.kind.openWord (b.opening ++ rest) =
      some ('<' :: b.openName, b.attributes ++ '>' :: rest) :=
    foldedStart?_eq_some_iff.2 ⟨by simp [opening], b.openName_folded⟩
  have hstart : tagStart? b.kind (b.opening ++ rest) = some ('<' :: b.openName, b.attributes ++ '>' :: rest) := by
    rw [BlockKind.openWord] at hname
    rw [tagStart?, hname]
    simp [b.endsWord_attributes rest]
  rw [opening?, hstart]
  simp [throughAngle_append rest b.attributes_plain.2, opening]

/-- the closing tag of a block is the first one after its opening -/
theorem quiet_body_closing : Quiet b.kind.closeWord (b.closing ++ rest) b.body := by
  refine quiet_of_not_foldedIn ?_ ?_
  · cases b.kind <;> decide
  · simpa [closing, BlockKind.closeWord] using b.body_closed

theorem blockAt?_written :
    blockAt? b.kind (b.text ++ rest) = some (⟨b.opening, b.body, b.closing⟩, rest) := by
  have hclose : closing? b.kind (b.closing ++ rest) = some (b.closing, rest) :=
    foldedStart?_eq_some_iff.2 ⟨rfl, b.closing_folded⟩
  have htext : b.text ++ rest = b.opening ++ (b.body ++ (b.closing ++ rest)) := by simp [text]
  rw [blockAt?, htext, b.opening?_written]
  simp [untilClosing_append (b.quiet_body_closing rest) hclose]

/-- no tag starts inside a text whose first character is its only `<`, unless it starts there -/
theorem quiet_open {word : List Char} (part : List Char) (hpart : '<' ∉ part)
    (h : foldedStart? ('<' :: word) ('<' :: part ++ rest) = none) : Quiet ('<' :: word) rest ('<' :: part) :=
  ⟨h, quiet_of_not_mem rest hpart⟩

/-- the names of the two kinds do not begin alike -/
theorem foldedStart?_other {kind : BlockKind} (hkind : b.kind ≠ kind) :
    foldedStart? kind.openWord (b.opening ++ rest) = none := by
  rw [← Option.not_isSome_iff_eq_none]
  intro hsome
  obtain ⟨⟨written, after⟩, hw⟩ := Option.isSome_iff_exists.1 hsome
  obtain ⟨htext, hmap⟩ := foldedStart?_eq_some_iff.1 hw
  have hother : kind.openWord <+: (b.opening ++ rest).map foldChar := by
    rw [htext, List.map_append, hmap]
    exact List.prefix_append _ _
  have hown : b.kind.openWord <+: (b.opening ++ rest).map foldChar := by
    rw [← b.openName_folded, opening]
    simp
  have hcomparable := List.prefix_or_prefix_of_prefix hother hown
  revert hkind hcomparable
  cases kind <;> cases b.kind <;> decide

theorem quiet_opening {kind : BlockKind} (hkind : b.kind ≠ kind) : Quiet kind.openWord rest b.opening := by
  refine quiet_open rest (b.openName ++ b.attributes ++ ['>']) ?_ ?_
  · simp [name_plain b.openName_word, b.attributes_plain.1]
  · simpa [opening, BlockKind.openWord] using b.foldedStart?_other rest hkind

theorem quiet_body (kind : BlockKind) : Quiet kind.openWord (b.closing ++ rest) b.body := by
  refine quiet_of_not_foldedIn (word_plain kind) ?_
  simpa [closing, BlockKind.openWord] using b.body_plain kind

theorem quiet_closing (kind : BlockKind) : Quiet kind.openWord rest b.closing := by
  refine quiet_open rest ('/' :: b.closeName ++ ['>']) ?_ ?_
  · simp [name_plain b.closeName_word]
  · have hslash : foldChar '/' ≠ 's' := by decide
    obtain ⟨word, hword⟩ : ∃ word, kind.word = 's' :: word := by cases kind <;> exact ⟨_, rfl⟩
    simp [hword, foldedStart?, hslash]

/-- a block of one kind holds no beginning of a block of the other -/
theorem quiet_text {kind : BlockKind} (hkind : b.kind ≠ kind) : Quiet kind.openWord rest b.text := by
  refine Quiet.append (Quiet.append ?_ ?_) (b.quiet_closing rest kind)
  · exact b.quiet_opening _ hkind
  · exact b.quiet_body rest kind

theorem findBlock_written :
    findBlock b.kind (b.text ++ rest) = some ([], ⟨b.opening, b.body, b.closing⟩, rest) := by
  have hblock := b.blockAt?_written rest
  rw [findBlock_eq]
  cases htext : b.text ++ rest with
  | nil => simp [text, opening] at htext
  | cons c more =>
    rw [htext] at hblock
    rw [firstBlock, hblock]

theorem remove_written : remove b.kind (b.text ++ rest) = remove b.kind rest := by
  simp [remove, split_of_some (b.findBlock_written rest), Pieces.outside]

theorem extract_written :
    extract b.kind (b.text ++ rest) =
      (([b.body].filter (·.any (!isBlank ·))).map fun body => String.ofList (trim body)) ++ extract b.kind rest := by
  by_cases hblank : ∀ c ∈ b.body, isBlank c
  · have htrim := trim_eq_nil_iff.2 hblank
    have hany : b.body.any (!isBlank ·) = false := by simpa using hblank
    simp [extract, split_of_some (b.findBlock_written rest), Pieces.bodies, htrim, hany]
  · have htrim : trim b.body ≠ [] := fun h => hblank (trim_eq_nil_iff.1 h)
    have hany : b.body.any (!isBlank ·) = true := by simpa using hblank
    simp [extract, split_of_some (b.findBlock_written rest), Pieces.bodies, htrim, hany]

end WrittenBlock

/-! ## Whole documents -/

/-- what stands before the first `<` of the segments is outside the blocks -/
theorem takeWhile_prefix_outside (segments : List Segment) :
    (segments.flatMap Segment.text).takeWhile (· != '<') <+: segments.flatMap Segment.outside := by
  induction segments with
  | nil => simp
  | cons s segments ih =>
    cases s with
    | plain text =>
      rw [List.flatMap_cons, List.flatMap_cons, Segment.text, Segment.outside, List.takeWhile_append]
      split_ifs
      · exact (List.prefix_append_right_inj _).2 ih
      · exact (List.takeWhile_prefix _).trans (List.prefix_append _ _)
    | block b => simp [Segment.text, WrittenBlock.text, WrittenBlock.opening]

theorem quiet_plain {kind : BlockKind} {text : List Char} {segments : List Segment}
    (h : ¬ FoldedIn kind.openWord (text ++ segments.flatMap Segment.outside)) :
    Quiet kind.openWord (segments.flatMap Segment.text) text := by
  refine quiet_of_not_foldedIn (word_plain kind) fun hin => h (hin.mono ?_)
  exact ((List.prefix_append_right_inj _).2 (takeWhile_prefix_outside segments)).isInfix

/-- the text outside the later segments mentions no more than the text outside all of them -/
theorem not_foldedIn_tail {word : List Char} {s : Segment} {segments : List Segment}
    (h : ¬ FoldedIn word ((s :: segments).flatMap Segment.outside)) :
    ¬ FoldedIn word (segments.flatMap Segment.outside) := by
  intro hin
  exact h (hin.mono (List.suffix_append _ _).isInfix)

theorem remove_segments {kind : BlockKind} {segments : List Segment}
    (h : ¬ FoldedIn kind.openWord (segments.flatMap Segment.outside)) :
    remove kind (segments.flatMap Segment.text) =
      (segments.filter fun s => !s.isBlock kind).flatMap Segment.text := by
  induction segments with
  | nil => simp [remove, split_of_none (show findBlock kind [] = none from rfl), Pieces.outside]
  | cons s segments ih =>
    have ih := ih (not_foldedIn_tail h)
    cases s with
    | plain text =>
      have hquiet : Quiet kind.openWord (segments.flatMap Segment.text) text := quiet_plain h
      rw [List.flatMap_cons, Segment.text, remove_append hquiet, ih]
      simp [Segment.isBlock, Segment.body?, Segment.text]
    | block b =>
      rw [List.flatMap_cons, Segment.text]
      by_cases hkind : b.kind = kind
      · subst hkind
        rw [b.remove_written, ih]
        simp [Segment.isBlock, Segment.body?]
      · rw [remove_append (b.quiet_text _ hkind), ih]
        simp [Segment.isBlock, Segment.body?, hkind, Segment.text]

theorem extract_segments {kind : BlockKind} {segments : List Segment}
    (h : ¬ FoldedIn kind.openWord (segments.flatMap Segment.outside)) :
    extract kind (segments.flatMap Segment.text) =
      ((segments.filterMap (Segment.body? kind)).filter (·.any (!isBlank ·))).map fun body =>
        String.ofList (trim body) := by
  induction segments with
  | nil => simp [extract, split_of_none (show findBlock kind [] = none from rfl), Pieces.bodies]
  | cons s segments ih =>
    have ih := ih (not_foldedIn_tail h)
    cases s with
    | plain text =>
      have hquiet : Quiet kind.openWord (segments.flatMap Segment.text) text := quiet_plain h
      rw [List.flatMap_cons, Segment.text, extract_append hquiet, ih, List.filterMap_cons_none rfl]
    | block b =>
      rw [List.flatMap_cons, Segment.text]
      by_cases hkind : b.kind = kind
      · subst hkind
        have hbody : Segment.body? b.kind (.block b) = some b.body := by simp [Segment.body?]
        rw [b.extract_written, ih, ← List.map_append, ← List.filter_append, List.filterMap_cons_some hbody]
        rfl
      · have hbody : Segment.body? kind (.block b) = none := by simp [Segment.body?, hkind]
        rw [extract_append (b.quiet_text _ hkind), ih, List.filterMap_cons_none hbody]

/-- without the blocks of both kinds, the text outside them is left -/
theorem flatMap_text_filter (segments : List Segment) :
    ((segments.filter fun s => !s.isBlock .style).filter fun s => !s.isBlock .script).flatMap Segment.text =
      segments.flatMap Segment.outside := by
  induction segments with
  | nil => rfl
  | cons s segments ih =>
    cases s with
    | plain text => simpa [Segment.isBlock, Segment.body?, Segment.text, Segment.outside] using ih
    | block b => cases hkind : b.kind <;> simpa [Segment.isBlock, Segment.body?, Segment.outside, hkind] using ih

theorem flatMap_outside_filter (kind : BlockKind) (segments : List Segment) :
    (segments.filter fun s => !s.isBlock kind).flatMap Segment.outside = segments.flatMap Segment.outside := by
  induction segments with
  | nil => rfl
  | cons s segments ih =>
    cases s with
    | plain text => simpa [Segment.isBlock, Segment.body?, Segment.outside] using ih
    | block b =>
      by_cases hkind : b.kind = kind <;> simpa [Segment.isBlock, Segment.body?, Segment.outside, hkind] using ih

namespace Document

variable (doc : Document)

theorem strip_text : strip doc.text = doc.outside := by
  have hstyle := remove_segments (doc.outside_plain .style)
  have hscript : remove .script ((doc.segments.filter fun s => !s.isBlock .style).flatMap Segment.text) =
      ((doc.segments.filter fun s => !s.isBlock .style).filter fun s => !s.isBlock .script).flatMap Segment.text := by
    refine remove_segments ?_
    rw [flatMap_outside_filter]
    exact doc.outside_plain .script
  calc strip doc.text
      = remove .script ((doc.segments.filter fun s => !s.isBlock .style).flatMap Segment.text) := by
        rw [strip, text, hstyle]
    _ = doc.outside := by rw [hscript, flatMap_text_filter, outside]

theorem extract_text (kind : BlockKind) : extract kind doc.text = doc.bodies kind :=
  extract_segments (doc.outside_plain kind)

end Document

theorem openName?_eq_none {kind : BlockKind} {text : List Char} (h : foldedStart? kind.openWord text = none) :
    openName? kind text = none := by
  rw [BlockKind.openWord] at h
  rw [openName?, h]

/-- a text that mentions no opening tag opens no block -/
theorem firstOpenName_eq_none {text : List Char} (h : ∀ kind : BlockKind, ¬ FoldedIn kind.openWord text) :
    firstOpenName text = none := by
  induction text with
  | nil => rfl
  | cons c rest ih =>
    have hnone : ∀ kind : BlockKind, openName? kind (c :: rest) = none := fun kind =>
      openName?_eq_none (foldedStart?_eq_none_of_not_foldedIn (h kind))
    rw [firstOpenName, hnone .style, hnone .script]
    exact ih fun kind hin => h kind (hin.mono (List.suffix_cons c rest).isInfix)

/-! ## Templates that compile -/

/-- a template that compiles has no open block, and is taken apart into its markup, its stylesheets and its scripts -/
theorem compile_ok {path : Path} {content : String} {data : Option (List (String × String))} {compiled : Compiled}
    (h : compile path content data = .ok compiled) :
    firstOpenName (strip content.toList) = none ∧
      compiled.markup.toList = data.elim (strip content.toList) (substitute · (strip content.toList)) ∧
      compiled.stylesheets = extract .style content.toList ∧ compiled.scripts = extract .script content.toList := by
  cases hopen : firstOpenName (strip content.toList) with
  | some name =>
    simp only [compile, hopen] at h
    cases h
  | none =>
    cases data with
    | none =>
      simp only [compile, hopen, Except.ok.injEq] at h
      rw [← h]
      exact ⟨rfl, String.toList_ofList, rfl, rfl⟩
    | some data =>
      simp only [compile, hopen, Except.ok.injEq] at h
      rw [← h]
      exact ⟨rfl, String.toList_ofList, rfl, rfl⟩

/-! ## The component of a document -/

/-- the trimmed bodies are tight and not empty -/
theorem Document.tight_bodies (doc : Document) (kind : BlockKind) :
    ∀ body ∈ doc.bodies kind, Tight body.toList ∧ body.toList ≠ [] := by
  intro body hbody
  simp only [bodies, List.mem_map, List.mem_filter] at hbody
  obtain ⟨written, ⟨-, hany⟩, rfl⟩ := hbody
  rw [String.toList_ofList]
  refine ⟨tight_trim written, fun hnil => ?_⟩
  have hblank := trim_eq_nil_iff.1 hnil
  simp only [List.any_eq_true, Bool.not_eq_true'] at hany
  obtain ⟨c, hc, hnot⟩ := hany
  rw [hblank c hc] at hnot
  exact absurd hnot (by decide)

/-- a tight text that is not empty is kept as it is -/
theorem nonEmpty?_trimmed {s : String} (ht : Tight s.toList) (hne : s.toList ≠ []) :
    Component.nonEmpty? (trimmed s) = some s := by
  have hs : s ≠ "" := fun h => hne (by simp [h])
  rw [trimmed, trim_eq_self ht, String.ofList_toList, Component.nonEmpty?]
  simp [hs]

/-- what compiling a document is to give -/
def Document.parts (doc : Document) (path : Path) : Compiled where
  markup := String.ofList doc.outside
  stylesheets := doc.bodies .style
  scripts := doc.bodies .script
  sources := [path]

theorem Document.stylesOf_parts (doc : Document) (path : Path) :
    Component.stylesOf (doc.parts path) = (doc.bodies .style).head? := by
  have htight := doc.tight_bodies .style
  rw [Component.stylesOf, parts]
  cases hbodies : doc.bodies .style with
  | nil => rfl
  | cons body bodies =>
    obtain ⟨ht, hne⟩ := htight body (by simp [hbodies])
    simp only [List.head?_cons, Option.bind_some]
    exact nonEmpty?_trimmed ht hne

theorem Document.scriptOf_parts (doc : Document) (path : Path) :
    Component.scriptOf (doc.parts path) =
      if doc.bodies .script = [] then none else some ("\n".intercalate (doc.bodies .script)) := by
  rw [Component.scriptOf, parts]
  split_ifs with hbodies
  · simp [hbodies, trimmed, trim, Component.nonEmpty?]
  · have htexts : ∀ text ∈ (doc.bodies .script).map String.toList, Tight text ∧ text ≠ [] := by
      intro text htext
      obtain ⟨body, hbody, rfl⟩ := List.mem_map.1 htext
      exact doc.tight_bodies .script body hbody
    obtain ⟨ht, hne⟩ := tight_intercalate ['\n'] htexts
    have hlist : ("\n".intercalate (doc.bodies .script)).toList =
        ['\n'].intercalate ((doc.bodies .script).map String.toList) := String.toList_intercalate
    refine nonEmpty?_trimmed (hlist ▸ ht) (hlist ▸ hne ?_)
    simpa using hbodies

/-- **Compiling a document gives back its parts.** The markup is the text outside the blocks; the stylesheets and
scripts are the bodies of their blocks, trimmed, without the blank ones, in order. The component made of them has the
first stylesheet and the scripts one below the other, or none where there is none. -/
theorem compile_document (doc : Document) (path : Path) (props : Option Props) :
    compile path (String.ofList doc.text) none = .ok (doc.parts path) ∧
      (Component.assemble path (doc.parts path) props).styles = (doc.bodies .style).head? ∧
      (Component.assemble path (doc.parts path) props).script =
        if doc.bodies .script = [] then none else some ("\n".intercalate (doc.bodies .script)) := by
  refine ⟨?_, ?_, ?_⟩
  · have hopen : firstOpenName doc.outside = none := firstOpenName_eq_none doc.outside_plain
    simp only [compile, String.toList_ofList, doc.strip_text, doc.extract_text, hopen]
    rfl
  · rw [Component.assemble_styles, doc.stylesOf_parts]
  · rw [Component.assemble_script, doc.scriptOf_parts]

/-- a text between two blocks, their tags in mixed case -/
def greeting : Document where
  segments := [
    .block {
      kind := .style
      openName := "STYLE".toList
      attributes := " media='print'".toList
      body := " @import a; ".toList
      closeName := "Style".toList
      openName_word := by decide
      closeName_word := by decide
      attributes_blank := by rintro c ⟨⟩; decide
      attributes_plain := by decide
      body_plain := by intro other; cases other <;> decide
      body_closed := by decide },
    .plain "<p>Hi</p>".toList,
    .block {
      kind := .script
      openName := "script".toList
      attributes := []
      body := "go('</style>')".toList
      closeName := "SCRIPT".toList
      openName_word := by decide
      closeName_word := by decide
      attributes_blank := by rintro c ⟨⟩
      attributes_plain := by decide
      body_plain := by intro other; cases other <;> decide
      body_closed := by decide }]
  outside_plain := by intro kind; cases kind <;> decide

theorem compile_greeting :
    compile (.ofString "hi.webc")
        "<STYLE media='print'> @import a; </Style><p>Hi</p><script>go('</style>')</SCRIPT>" none =
      .ok { markup := "<p>Hi</p>", stylesheets := ["@import a;"], scripts := ["go('</style>')"],
            sources := [.ofString "hi.webc"] } := by
  have htext : String.ofList greeting.text =
      "<STYLE media='print'> @import a; </Style><p>Hi</p><script>go('</style>')</SCRIPT>" := by decide
  have hparts : greeting.parts (.ofString "hi.webc") =
      { markup := "<p>Hi</p>", stylesheets := ["@import a;"], scripts := ["go('</style>')"],
        sources := [.ofString "hi.webc"] } := by decide
  rw [← htext, ← hparts]
  exact (compile_document greeting _ none).1

end ComponentCompiler.Template
