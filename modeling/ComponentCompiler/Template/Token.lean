import ComponentCompiler.Text.Basic
import ComponentCompiler.Text.Word

/-!
Placeholder tokens of a template. A token is a name between double braces, with blanks allowed around the name. `pieces`
reads a text as tokens and single characters, from left to right, and nothing is lost.
-/

namespace ComponentCompiler.Template

open Text

/-- a token as written: the blanks before the name, the name, and the blanks after it -/
structure Token where
  lead : List Char
  name : List Char
  trail : List Char
  deriving DecidableEq, Repr

def Token.text (t : Token) : List Char :=
  '{' :: '{' :: t.lead ++ t.name ++ t.trail ++ ['}', '}']

/-- whether a name can start with a character: an ASCII letter, a low line or a dollar sign -/
def startsName (c : Char) : Bool :=
  c.isAlpha || c == '_' || c == '$'

def continuesName (c : Char) : Bool :=
  isWord c || c == '$'

/-- a name at the beginning of the text, and what follows it -/
def name? : List Char → Option (List Char × List Char)
  | [] => none
  | c :: rest =>
    if startsName c then some (c :: rest.takeWhile continuesName, rest.dropWhile continuesName) else none

def closeBraces? : List Char → Option (List Char)
  | '}' :: '}' :: rest => some rest
  | _ => none

/-- what follows the two opening braces of a token -/
def tokenBody? (text : List Char) : Option (Token × List Char) :=
  match name? (text.dropWhile isBlank) with
  | none => none
  | some (name, afterName) =>
    (closeBraces? (afterName.dropWhile isBlank)).map fun after =>
      (⟨text.takeWhile isBlank, name, afterName.takeWhile isBlank⟩, after)

/-- a token at the beginning of the text, and what follows it -/
def token? : List Char → Option (Token × List Char)
  | '{' :: '{' :: rest => tokenBody? rest
  | _ => none

/-- a piece of a text: a token or a character outside all tokens -/
inductive Piece where
  | char (c : Char)
  | token (t : Token)
  deriving DecidableEq, Repr

theorem name?_eq {text name after : List Char} (h : name? text = some (name, after)) : text = name ++ after := by
  cases text with
  | nil => simp [name?] at h
  | cons c rest =>
    by_cases hc : startsName c
    · simp only [name?, hc, if_true, Option.some.injEq, Prod.mk.injEq] at h
      obtain ⟨rfl, rfl⟩ := h
      rw [List.cons_append, List.takeWhile_append_dropWhile]
    · simp [name?, hc] at h

theorem closeBraces?_eq {text after : List Char} (h : closeBraces? text = some after) :
    text = '}' :: '}' :: after := by
  unfold closeBraces? at h
  split at h
  · simp only [Option.some.injEq] at h
    rw [h]
  · simp at h

/-- a token and what follows it make up the text -/
theorem token?_eq {text after : List Char} {t : Token} (h : token? text = some (t, after)) :
    text = t.text ++ after := by
  unfold token? at h
  split at h
  · next rest =>
    unfold tokenBody? at h
    split at h
    · simp at h
    · next name afterName hname =>
      simp only [Option.map_eq_some_iff, Prod.mk.injEq] at h
      obtain ⟨after', hclose, rfl, rfl⟩ := h
      have h1 : rest = rest.takeWhile isBlank ++ rest.dropWhile isBlank := List.takeWhile_append_dropWhile.symm
      have h2 : afterName = afterName.takeWhile isBlank ++ afterName.dropWhile isBlank :=
        List.takeWhile_append_dropWhile.symm
      rw [name?_eq hname] at h1
      rw [closeBraces?_eq hclose] at h2
      simp only [Token.text, List.cons_append, List.append_assoc, List.nil_append]
      rw [← h2, ← h1]
  · simp at h

/-- what follows a token is shorter than the text -/
theorem token?_length {text after : List Char} {t : Token} (h : token? text = some (t, after)) :
    after.length < text.length := by
  rw [token?_eq h]
  simp [Token.text]
  omega

/-- a text as tokens and characters, from left to right -/
def pieces (text : List Char) : List Piece :=
  match text with
  | [] => []
  | c :: rest =>
    match _h : token? (c :: rest) with
    | some (t, after) => .token t :: pieces after
    | none => .char c :: pieces rest
termination_by text.length
decreasing_by
  · exact token?_length _h
  · simp

/-- what a piece becomes: a token whose name has a value becomes that value, all else stays -/
def Piece.fill (data : List (String × String)) : Piece → List Char
  | .char c => [c]
  | .token t =>
    match data.find? fun entry => entry.1 == String.ofList t.name with
    | some entry => entry.2.toList
    | none => t.text

/-- the text with values for the tokens whose name has one; the first value given for a name counts -/
def substitute (data : List (String × String)) (text : List Char) : List Char :=
  (pieces text).flatMap (Piece.fill data)

end ComponentCompiler.Template
