import ComponentCompiler.Proofs.Template.Document
import ComponentCompiler.Target

/-!
Openings in the markup.

A template that leaves a style or script tag open is refused, and this is checked before values are filled in for the
placeholder tokens. `markup_opens_nothing` says that the check covers the markup that comes out as well: what a target
puts in for a prop begins with a brace and holds no `<`, so that an opening in the filled text stands outside all
tokens, and what follows its name there was there before (`opens_of_opens_substitute`).
-/

namespace ComponentCompiler.Template

open Text

/-! ## Openings -/

/-- an opening tag of a kind stands in the text: its name in any case, and then white space, `/`, `>` or the end -/
def Opens (kind : BlockKind) (text : List Char) : Prop :=
  ∃ before name after, text = before ++ (name ++ after) ∧ name.map foldChar = kind.openWord ∧ endsName after = true

theorem Opens.append {kind : BlockKind} {text : List Char} (h : Opens kind text) (front : List Char) :
    Opens kind (front ++ text) := by
  obtain ⟨before, name, after, rfl, hname, hends⟩ := h
  exact ⟨front ++ before, name, after, by simp, hname, hends⟩

/-- at a place where no opening is seen, none stands -/
theorem endsName_of_openName? {kind : BlockKind} {name after : List Char} (h : openName? kind (name ++ after) = none)
    (hname : name.map foldChar = kind.openWord) : endsName after = false := by
  have hstart : foldedStart? ('<' :: kind.word) (name ++ after) = some (name, after) :=
    foldedStart?_eq_some_iff.2 ⟨rfl, hname⟩
  rw [openName?, hstart] at h
  by_contra hends
  simp [hends] at h

theorem openName?_of_firstOpenName {text : List Char} (h : firstOpenName text = none) (kind : BlockKind)
    {rest : List Char} (hrest : rest <:+ text) : openName? kind rest = none := by
  induction text with
  | nil =>
    rw [List.suffix_nil.1 hrest]
    cases kind <;> rfl
  | cons c text ih =>
    unfold firstOpenName at h
    split at h
    · cases h
    · next hstyle =>
      split at h
      · cases h
      · next hscript =>
        rcases List.suffix_cons_iff.1 hrest with rfl | hrest
        · cases kind with
          | style => exact hstyle
          | script => exact hscript
        · exact ih h hrest

theorem opens_of_openName? {kind : BlockKind} {text name : List Char} (h : openName? kind text = some name) :
    Opens kind text := by
  unfold openName? at h
  split at h
  · next written after hstart =>
    obtain ⟨rfl, hname⟩ := foldedStart?_eq_some_iff.1 hstart
    split_ifs at h with hends
    exact ⟨[], written, after, rfl, hname, hends⟩
  · cases h

/-- **The check is exact**: the texts that pass it are those without an opening. -/
theorem firstOpenName_eq_none_iff {text : List Char} : firstOpenName text = none ↔ ∀ kind, ¬ Opens kind text := by
  constructor
  · rintro h kind ⟨before, name, after, rfl, hname, hends⟩
    have hplace := openName?_of_firstOpenName h kind (List.suffix_append before (name ++ after))
    rw [endsName_of_openName? hplace hname] at hends
    cases hends
  · intro h
    induction text with
    | nil => rfl
    | cons c rest ih =>
      have hplace : ∀ kind, openName? kind (c :: rest) = none := by
        intro kind
        by_contra hsome
        obtain ⟨name, hname⟩ := Option.ne_none_iff_exists'.1 hsome
        exact h kind (opens_of_openName? hname)
      simp only [firstOpenName, hplace]
      exact ih fun kind hopens => h kind (hopens.append [c])

/-! ## Tokens -/

theorem isBlank_angle : isBlank '<' = false := by decide

theorem not_mem_takeWhile {p : Char → Bool} {c : Char} (h : p c = false) (text : List Char) : c ∉ text.takeWhile p := by
  intro hmem
  have := List.mem_takeWhile_imp hmem
  rw [h] at this
  cases this

theorem name?_plain {text name after : List Char} (h : name? text = some (name, after)) : '<' ∉ name := by
  have hstarts : startsName '<' = false := by decide
  have hcontinues : continuesName '<' = false := by decide
  cases text with
  | nil => cases h
  | cons c rest =>
    by_cases hc : startsName c
    · simp only [name?, hc, if_true, Option.some.injEq, Prod.mk.injEq] at h
      obtain ⟨rfl, -⟩ := h
      rw [List.mem_cons, not_or]
      refine ⟨?_, not_mem_takeWhile hcontinues rest⟩
      rintro rfl
      rw [hstarts] at hc
      cases hc
    · simp [name?, hc] at h

/-- a token holds no `<`, neither in its name nor around it -/
theorem token?_plain {text after : List Char} {t : Token} (h : token? text = some (t, after)) :
    '<' ∉ t.name ∧ '<' ∉ t.text := by
  unfold token? at h
  split at h
  · next rest =>
    unfold tokenBody? at h
    split at h
    · cases h
    · next name afterName hname =>
      simp only [Option.map_eq_some_iff, Prod.mk.injEq] at h
      obtain ⟨after', -, rfl, -⟩ := h
      have hplain := name?_plain hname
      have hlead := not_mem_takeWhile isBlank_angle rest
      have htrail := not_mem_takeWhile isBlank_angle afterName
      refine ⟨hplain, ?_⟩
      simp [Token.text, hlead, hplain, htrail]
  · cases h

theorem head_of_token? {text after : List Char} {t : Token} (h : token? text = some (t, after)) :
    ∃ rest, text = '{' :: rest := by
  have htext := token?_eq h
  rw [Token.text] at htext
  exact ⟨_, htext⟩

theorem pieces_token {text after : List Char} {t : Token} (h : token? text = some (t, after)) :
    pieces text = .token t :: pieces after := by
  obtain ⟨rest, rfl⟩ := head_of_token? h
  rw [pieces]
  split
  · next t' after' h' =>
    rw [h] at h'
    obtain ⟨rfl, rfl⟩ := Prod.mk.inj (Option.some.inj h')
    rfl
  · next h' =>
    rw [h] at h'
    cases h'

theorem pieces_char {c : Char} {rest : List Char} (h : token? (c :: rest) = none) :
    pieces (c :: rest) = .char c :: pieces rest := by
  rw [pieces]
  split
  · next h' =>
    rw [h] at h'
    cases h'
  · rfl

/-! ## Filling in values -/

section Substitute

variable {data : List (String × String)}

theorem substitute_nil : substitute data [] = [] := by
  rw [substitute, pieces]
  rfl

theorem substitute_token {text after : List Char} {t : Token} (h : token? text = some (t, after)) :
    substitute data text = (Piece.token t).fill data ++ substitute data after := by
  rw [substitute, pieces_token h, List.flatMap_cons, substitute]

theorem substitute_char {c : Char} {rest : List Char} (h : token? (c :: rest) = none) :
    substitute data (c :: rest) = c :: substitute data rest := by
  rw [substitute, pieces_char h, List.flatMap_cons, substitute]
  rfl

/-- what is put in for a token begins with a brace and holds no `<` -/
def Shielded (data : List (String × String)) : Prop :=
  ∀ text t after, token? text = some (t, after) → ∃ rest, (Piece.token t).fill data = '{' :: rest ∧ '<' ∉ rest

/-- the front of a filled text up to a brace is the front of the text -/
theorem Shielded.front (h : Shielded data) {text written after : List Char} (hwritten : '{' ∉ written)
    (hfilled : substitute data text = written ++ after) :
    ∃ rest, text = written ++ rest ∧ substitute data rest = after := by
  induction written generalizing text with
  | nil => exact ⟨text, rfl, hfilled⟩
  | cons c written ih =>
    rw [List.mem_cons, not_or] at hwritten
    cases text with
    | nil =>
      rw [substitute_nil] at hfilled
      cases hfilled
    | cons d rest =>
      cases htoken : token? (d :: rest) with
      | some found =>
        obtain ⟨t, behind⟩ := found
        obtain ⟨more, hfill, -⟩ := h _ t behind htoken
        rw [substitute_token htoken, hfill] at hfilled
        exact absurd (List.cons.inj hfilled).1 hwritten.1
      | none =>
        rw [substitute_char htoken] at hfilled
        obtain ⟨rfl, hrest⟩ := List.cons.inj hfilled
        obtain ⟨more, rfl, hmore⟩ := ih hwritten.2 hrest
        exact ⟨more, rfl, hmore⟩

/-- filling in values does not change where a name ends -/
theorem Shielded.endsName (h : Shielded data) (text : List Char) : endsName (substitute data text) = endsName text := by
  cases text with
  | nil => rw [substitute_nil]
  | cons c rest =>
    cases htoken : token? (c :: rest) with
    | some found =>
      obtain ⟨t, behind⟩ := found
      obtain ⟨more, hfill, -⟩ := h _ t behind htoken
      obtain ⟨more', htext⟩ := head_of_token? htoken
      rw [substitute_token htoken, hfill, htext]
      rfl
    | none =>
      rw [substitute_char htoken]
      rfl

theorem brace_not_mem_name {kind : BlockKind} {name : List Char} (h : name.map foldChar = kind.openWord) :
    '{' ∉ name := by
  intro hmem
  have hfold := List.mem_map_of_mem (f := foldChar) hmem
  rw [h] at hfold
  revert hfold
  cases kind <;> decide

/-- the name of an opening begins with `<` -/
theorem exists_angle_name {kind : BlockKind} {name : List Char} (h : name.map foldChar = kind.openWord) :
    ∃ rest, name = '<' :: rest := by
  cases name with
  | nil => cases h
  | cons c rest =>
    have hc : foldChar c = '<' := (List.cons.inj h).1
    exact ⟨rest, by rw [eq_of_foldChar_eq hc (by decide)]⟩

/-- **Filling in shielded values opens nothing.** -/
theorem opens_of_opens_substitute (h : Shielded data) {kind : BlockKind} {text : List Char}
    (hopens : Opens kind (substitute data text)) : Opens kind text := by
  -- along the pieces of the text: an opening in the filled text begins behind a token, at a character, or behind it
  fun_induction pieces text with
  | case1 =>
    rw [substitute_nil] at hopens
    exact hopens
  | case2 c rest t behind htoken ih =>
    obtain ⟨more, hfill, hplain⟩ := h _ t behind htoken
    rw [substitute_token htoken] at hopens
    rw [token?_eq htoken]
    refine (ih ?_).append t.text
    obtain ⟨before, name, after, hfilled, hname, hends⟩ := hopens
    obtain ⟨name', rfl⟩ := exists_angle_name hname
    rcases List.append_eq_append_iff.1 hfilled with ⟨before', -, hrest⟩ | ⟨more', hvalue, hrest⟩
    · exact ⟨before', '<' :: name', after, hrest, hname, hends⟩
    · cases more' with
      | nil => exact ⟨[], '<' :: name', after, hrest.symm, hname, hends⟩
      | cons d more' =>
        -- the opening would begin inside the value
        obtain ⟨rfl, -⟩ := List.cons.inj hrest
        have hmem : '<' ∈ '{' :: more := by
          rw [← hfill, hvalue]
          simp
        rcases List.mem_cons.1 hmem with hbrace | hmore
        · exact absurd hbrace (by decide)
        · exact absurd hmore hplain
  | case3 c rest htoken ih =>
    obtain ⟨before, name, after, hfilled, hname, hends⟩ := hopens
    cases before with
    | nil =>
      obtain ⟨rest', htext, hafter⟩ := h.front (brace_not_mem_name hname) hfilled
      refine ⟨[], name, rest', htext, hname, ?_⟩
      rw [← h.endsName rest', hafter]
      exact hends
    | cons d before =>
      rw [substitute_char htoken] at hfilled
      obtain ⟨-, hrest⟩ := List.cons.inj hfilled
      exact (ih ⟨before, name, after, hrest, hname, hends⟩).append [c]

end Substitute

/-! ## Placeholders -/

/-- the expression for a prop is its name in braces -/
theorem placeholder_shape (target : Target) (prop : String) :
    ∃ front trail, (target.placeholder prop).toList = '{' :: (front ++ (prop.toList ++ trail)) ∧ '<' ∉ front ∧
      '<' ∉ trail := by
  unfold Target.placeholder
  cases target.braces with
  | single => exact ⟨[], ['}'], by simp, by decide, by decide⟩
  | double => exact ⟨['{', ' '], [' ', '}', '}'], by simp, by decide, by decide⟩

theorem shielded_placeholders (target : Target) (props : Props) : Shielded (target.placeholders props) := by
  intro text t after htoken
  obtain ⟨hname, htext⟩ := token?_plain htoken
  cases hfind : (target.placeholders props).find? fun entry => entry.1 == String.ofList t.name with
  | none =>
    refine ⟨'{' :: (t.lead ++ t.name ++ t.trail ++ ['}', '}']), ?_, ?_⟩
    · simp only [Piece.fill, hfind]
      simp [Token.text]
    · intro hmem
      apply htext
      simp only [Token.text]
      simpa using hmem
  | some entry =>
    have hkey : entry.1 = String.ofList t.name := by simpa using List.find?_some hfind
    have hvalue : entry.2 = target.placeholder entry.1 := by
      obtain ⟨prop, -, rfl⟩ := List.mem_map.1 (List.mem_of_find?_eq_some hfind)
      rfl
    obtain ⟨front, trail, hshape, hfront, htrail⟩ := placeholder_shape target entry.1
    refine ⟨front ++ (entry.1.toList ++ trail), ?_, ?_⟩
    · simp only [Piece.fill, hfind]
      rw [hvalue, hshape]
    · rw [hkey, String.toList_ofList]
      simp [hfront, hname, htrail]

/-- **The markup opens nothing.** Where a template compiles with the placeholders of a target for declared props, or
without any, the markup holds no opening of a style or a script, and would pass the check again. -/
theorem markup_opens_nothing {path : Path} {content : String} {target : Target} {props : Option Props}
    {compiled : Compiled} (h : compile path content (props.map target.placeholders) = .ok compiled) :
    (∀ kind, ¬ Opens kind compiled.markup.toList) ∧ firstOpenName compiled.markup.toList = none := by
  rw [firstOpenName_eq_none_iff, and_self]
  obtain ⟨hopen, hmarkup, -, -⟩ := compile_ok h
  have hstripped := firstOpenName_eq_none_iff.1 hopen
  rw [hmarkup]
  cases props with
  | none => exact hstripped
  | some props =>
    intro kind hopens
    exact hstripped kind (opens_of_opens_substitute (shielded_placeholders target props) hopens)

/-- a token right behind the name of a tag: neither the token nor its value ends the name -/
theorem token_behind_name_opens_nothing :
    let props : Props := ⟨[⟨"a", "string"⟩, ⟨"<script>", "string"⟩, ⟨"a", "number"⟩]⟩
    compile (.ofString "x/a.webc") "<style\x7b\x7b a \x7d\x7d" ((some props).map Target.vue.placeholders) =
        .ok { markup := "<style\x7b\x7b a \x7d\x7d", stylesheets := [], scripts := [],
              sources := [.ofString "x/a.webc"] } ∧
      ∀ kind, ¬ Opens kind "<style\x7b\x7b a \x7d\x7d".toList := by
  intro props
  have hcompile :
      compile (.ofString "x/a.webc") "<style\x7b\x7b a \x7d\x7d" ((some props).map Target.vue.placeholders) =
        .ok { markup := "<style\x7b\x7b a \x7d\x7d", stylesheets := [], scripts := [],
              sources := [.ofString "x/a.webc"] } := by
    decide +kernel
  exact ⟨hcompile, (markup_opens_nothing hcompile).1⟩

end ComponentCompiler.Template
