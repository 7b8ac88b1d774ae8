import ComponentCompiler.Json.Reader
import ComponentCompiler.Proofs.Utf8

/-!
Written JSON objects, and that reading gives back what was written.

The relations `WritesChar`, `WritesString`, `WritesValue`, `WritesMember` and `WritesObject` say how a thing may be
written down. A character of a string stands for itself or is escaped by a letter, by a number of 16 bits or, outside
the basic plane, by two such numbers; blanks may stand around every token. They are stated without the reader. Values
are strings, truth values and null. Every object of such values has a written form: its compact text is one
(`writesObject_text`).

The reader is followed one level at a time: four digits (`hexUnit_of_writes`), a character (`stringFrom_of_writesChar`),
a string, a value, a member, the members (`nextMembers_of_writes`) and the object. `readObject_of_writes` says that an
object is read, in any of its written forms, as its members with the repeated names collected.
-/

namespace ComponentCompiler.Json

open Text

/-! ## Written forms -/

/-- the digit of a value below 16, small or capital -/
def IsHexDigit (n : Nat) (c : Char) : Prop :=
  "0123456789abcdef".toList[n]? = some c ∨ "0123456789ABCDEF".toList[n]? = some c

instance (n : Nat) (c : Char) : Decidable (IsHexDigit n c) :=
  inferInstanceAs (Decidable (_ ∨ _))

/-- a number of 16 bits in four digits -/
inductive WritesUnit : Nat → List Char → Prop where
  | digits {w x y z : Nat} {a b c d : Char} (ha : IsHexDigit w a) (hb : IsHexDigit x b) (hc : IsHexDigit y c)
      (hd : IsHexDigit z d) : WritesUnit (w * 0x1000 + x * 0x100 + y * 0x10 + z) [a, b, c, d]

/-- the characters with a letter of their own, by this letter -/
def letters : List (Char × Char) :=
  [('"', '"'), ('\\', '\\'), ('/', '/'), ('b', Char.ofNat 0x08), ('f', Char.ofNat 0x0C), ('n', '\n'), ('r', '\r'),
   ('t', '\t')]

inductive WritesChar : Char → List Char → Prop where
  | plain {c : Char} (hcontrol : 0x20 ≤ c.toNat) (hquote : c ≠ '"') (hslash : c ≠ '\\') : WritesChar c [c]
  | letter {c l : Char} (hl : (l, c) ∈ letters) : WritesChar c ['\\', l]
  | unit {c : Char} {digits : List Char} (hunit : WritesUnit c.toNat digits) : WritesChar c ('\\' :: 'u' :: digits)
  | pair {c : Char} {high low : Nat} {first second : List Char} (hfirst : WritesUnit high first)
      (hsecond : WritesUnit low second) (hhigh : 0xD800 ≤ high ∧ high ≤ 0xDBFF) (hlow : 0xDC00 ≤ low ∧ low ≤ 0xDFFF)
      (hc : c.toNat = 0x10000 + (high - 0xD800) * 0x400 + (low - 0xDC00)) :
      WritesChar c ('\\' :: 'u' :: (first ++ '\\' :: 'u' :: second))

inductive WritesChars : List Char → List Char → Prop where
  | nil : WritesChars [] []
  | cons {c : Char} {cs text more : List Char} (hc : WritesChar c text) (hcs : WritesChars cs more) :
      WritesChars (c :: cs) (text ++ more)

inductive WritesString : String → List Char → Prop where
  | quoted {s : String} {inner : List Char} (h : WritesChars s.toList inner) : WritesString s ('"' :: (inner ++ ['"']))

inductive WritesValue : Value → List Char → Prop where
  | null : WritesValue .null ['n', 'u', 'l', 'l']
  | yes : WritesValue (.bool true) ['t', 'r', 'u', 'e']
  | no : WritesValue (.bool false) ['f', 'a', 'l', 's', 'e']
  | string {s : String} {text : List Char} (h : WritesString s text) : WritesValue (.string s) text

def Blanks (text : List Char) : Prop :=
  ∀ c ∈ text, c = ' ' ∨ c = '\t' ∨ c = '\n' ∨ c = '\r'

instance (text : List Char) : Decidable (Blanks text) :=
  List.decidableBAll (fun c => c = ' ' ∨ c = '\t' ∨ c = '\n' ∨ c = '\r') text

inductive WritesMember : String × Value → List Char → Prop where
  | member {name : String} {value : Value} {a b c d key text : List Char} (ha : Blanks a) (hkey : WritesString name key)
      (hb : Blanks b) (hc : Blanks c) (hvalue : WritesValue value text) (hd : Blanks d) :
      WritesMember (name, value) (a ++ (key ++ (b ++ ':' :: (c ++ (text ++ d)))))

/-- at least one member, with commas between them -/
inductive WritesMembers : List (String × Value) → List Char → Prop where
  | one {m : String × Value} {text : List Char} (hm : WritesMember m text) : WritesMembers [m] text
  | cons {m : String × Value} {ms : List (String × Value)} {text more : List Char} (hm : WritesMember m text)
      (hms : WritesMembers ms more) : WritesMembers (m :: ms) (text ++ ',' :: more)

/-- an object that is the whole text -/
inductive WritesObject : List (String × Value) → List Char → Prop where
  | empty {a b c : List Char} (ha : Blanks a) (hb : Blanks b) (hc : Blanks c) :
      WritesObject [] (a ++ '{' :: (b ++ '}' :: c))
  | members {ms : List (String × Value)} {a text b : List Char} (ha : Blanks a) (hms : WritesMembers ms text)
      (hb : Blanks b) : WritesObject ms (a ++ '{' :: (text ++ '}' :: b))

/-! ## Every object has a written form -/

/-- a string, a truth value or null -/
def Value.IsFlat : Value → Prop
  | .null | .bool _ | .string _ => True
  | .number _ | .array _ | .object _ => False

theorem isHexDigit_digitChar : ∀ n < 16, IsHexDigit n (Nat.digitChar n) := by
  decide

theorem writesUnit_control {n : Nat} (h : n < 0x20) : WritesUnit n ('0' :: '0' :: hexPair n) := by
  have hhigh : IsHexDigit (n / 16) (Nat.digitChar (n / 16)) := isHexDigit_digitChar _ (by omega)
  have hlow : IsHexDigit (n % 16) (Nat.digitChar (n % 16)) := isHexDigit_digitChar _ (by omega)
  have hzero : IsHexDigit 0 '0' := by decide
  have hunit := WritesUnit.digits hzero hzero hhigh hlow
  rwa [show 0 * 0x1000 + 0 * 0x100 + n / 16 * 0x10 + n % 16 = n by omega] at hunit

theorem writesChar_escapeChar (c : Char) : WritesChar c (escapeChar c) := by
  have hnat : ∀ n, c.toNat = n → c = Char.ofNat n := by
    rintro n rfl
    exact c.ofNat_toNat.symm
  simp only [escapeChar, beq_iff_eq]
  split_ifs with hquote hslash hline hreturn htab hback hfeed hcontrol
  · obtain rfl := hquote
    exact .letter (by decide)
  · obtain rfl := hslash
    exact .letter (by decide)
  · obtain rfl := hline
    exact .letter (by decide)
  · obtain rfl := hreturn
    exact .letter (by decide)
  · obtain rfl := htab
    exact .letter (by decide)
  · rw [hnat _ hback]
    exact .letter (by decide)
  · rw [hnat _ hfeed]
    exact .letter (by decide)
  · exact .unit (writesUnit_control hcontrol)
  · exact .plain (by omega) hquote hslash

theorem writesString_stringText (s : String) : WritesString s (stringText s).toList := by
  have hchars : ∀ cs : List Char, WritesChars cs (cs.flatMap escapeChar) := by
    intro cs
    induction cs with
    | nil => exact .nil
    | cons c cs ih => exact .cons (writesChar_escapeChar c) ih
  rw [stringText, String.toList_ofList]
  exact .quoted (hchars s.toList)

theorem writesValue_text {v : Value} (h : v.IsFlat) : WritesValue v v.text.toList := by
  cases v with
  | null => simpa [Value.text] using WritesValue.null
  | bool b =>
    cases b with
    | true => simpa [Value.text] using WritesValue.yes
    | false => simpa [Value.text] using WritesValue.no
  | string s =>
    rw [Value.text]
    exact .string (writesString_stringText s)
  | number n => exact h.elim
  | array items => exact h.elim
  | object members => exact h.elim

theorem blanks_nil : Blanks [] := by
  decide

theorem writesMembers_texts {ms : List (String × Value)} (hne : ms ≠ []) (h : ∀ m ∈ ms, m.2.IsFlat) :
    WritesMembers ms (",".intercalate (memberTexts ms)).toList := by
  induction ms with
  | nil => exact absurd rfl hne
  | cons m ms ih =>
    obtain ⟨name, value⟩ := m
    have hm : WritesMember (name, value) (stringText name ++ ":" ++ value.text).toList := by
      have hmember := WritesMember.member blanks_nil (writesString_stringText name) blanks_nil blanks_nil
        (writesValue_text (h _ List.mem_cons_self)) blanks_nil
      simpa using hmember
    cases ms with
    | nil => simpa [memberTexts] using WritesMembers.one hm
    | cons m ms =>
      have hms := ih (by simp) fun m' hm' => h m' (List.mem_cons_of_mem _ hm')
      simpa [memberTexts, String.toList_intercalate] using WritesMembers.cons hm hms

/-- the compact text of an object is one of its written forms -/
theorem writesObject_text {ms : List (String × Value)} (h : ∀ m ∈ ms, m.2.IsFlat) :
    WritesObject ms (Value.object ms).text.toList := by
  by_cases hnil : ms = []
  · subst hnil
    simpa [Value.text, memberTexts] using WritesObject.empty blanks_nil blanks_nil blanks_nil
  · have hobject := WritesObject.members blanks_nil (writesMembers_texts hnil h) blanks_nil
    simpa [Value.text] using hobject

/-! ## White space -/

theorem isSpace_of_blanks {text : List Char} (h : Blanks text) : ∀ c ∈ text, isSpace c = true := by
  intro c hc
  rcases h c hc with rfl | rfl | rfl | rfl <;> decide

theorem skipSpace_append {blanks : List Char} (h : Blanks blanks) (rest : List Char) :
    skipSpace (blanks ++ rest) = skipSpace rest :=
  List.dropWhile_append_of_pos (isSpace_of_blanks h)

/-- blanks are passed over up to the next token -/
theorem skipSpace_token {blanks : List Char} (h : Blanks blanks) {c : Char} (hc : isSpace c = false)
    (rest : List Char) :
    skipSpace (blanks ++ c :: rest) = c :: rest := by
  rw [skipSpace_append h]
  exact List.dropWhile_cons_of_neg (by simp [hc])

theorem skipSpace_blanks {blanks : List Char} (h : Blanks blanks) : skipSpace blanks = [] := by
  simpa [skipSpace] using skipSpace_append h []

/-! ## Escapes -/

theorem hexValue?_of_isHexDigit {n : Nat} {c : Char} (h : IsHexDigit n c) : hexValue? c = some n := by
  have hsmall : ∀ n (h : n < "0123456789abcdef".toList.length), hexValue? "0123456789abcdef".toList[n] = some n := by
    decide
  have hcapital : ∀ n (h : n < "0123456789ABCDEF".toList.length), hexValue? "0123456789ABCDEF".toList[n] = some n := by
    decide
  rcases h with h | h
  · obtain ⟨hn, rfl⟩ := List.getElem?_eq_some_iff.1 h
    exact hsmall n hn
  · obtain ⟨hn, rfl⟩ := List.getElem?_eq_some_iff.1 h
    exact hcapital n hn

theorem length_le_size (text : List Char) : text.length ≤ Utf8.size text := by
  have hfold : ∀ (text : List Char) (octets : Nat),
      octets + text.length ≤ text.foldl (fun octets c => octets + c.utf8Size) octets := by
    intro text
    induction text with
    | nil => simp
    | cons c rest ih =>
      intro octets
      have hpos := c.utf8Size_pos
      have hrest := ih (octets + c.utf8Size)
      simp only [List.length_cons, List.foldl_cons]
      omega
  have h := hfold text 0
  rw [Nat.zero_add] at h
  exact h

theorem hexUnit_of_writes {n : Nat} {digits : List Char} (h : WritesUnit n digits) (rest : List Char) :
    hexUnit (digits ++ rest) = .ok n := by
  cases h with
  | @digits w x y z a b c d ha hb hc hd =>
    have hsize := length_le_size (a :: b :: c :: d :: rest)
    have hlong : ¬ Utf8.size (a :: b :: c :: d :: rest) < 4 := by
      simp only [List.length_cons] at hsize
      omega
    have hunit : hexUnit? (a :: b :: c :: d :: rest) = some (((w * 16 + x) * 16 + y) * 16 + z) := by
      simp [hexUnit?, hexValue?_of_isHexDigit ha, hexValue?_of_isHexDigit hb, hexValue?_of_isHexDigit hc,
        hexValue?_of_isHexDigit hd]
    simp only [List.cons_append, List.nil_append, hexUnit, if_neg hlong, hunit]
    congr 1
    omega

theorem WritesUnit.length_eq {n : Nat} {digits : List Char} (h : WritesUnit n digits) : digits.length = 4 := by
  cases h
  rfl

/-- no character has the number of half a pair -/
theorem not_surrogate (c : Char) : c.toNat < 0xD800 ∨ 0xDFFF < c.toNat := by
  rcases c.valid with h | h
  · exact Or.inl h
  · exact Or.inr h.1

theorem escape_unit {c : Char} {digits : List Char} (h : WritesUnit c.toNat digits) (rest : List Char) :
    escape ('u' :: (digits ++ rest)) = .ok (c, 5) := by
  have hlow : ¬ ((decide (0xDC00 ≤ c.toNat) && decide (c.toNat ≤ 0xDFFF)) = true) := by
    have hnumber := not_surrogate c
    simp only [Bool.and_eq_true, decide_eq_true_eq]
    omega
  have hhigh : ¬ ((decide (0xD800 ≤ c.toNat) && decide (c.toNat ≤ 0xDBFF)) = true) := by
    have hnumber := not_surrogate c
    simp only [Bool.and_eq_true, decide_eq_true_eq]
    omega
  simp only [escape, hexUnit_of_writes h, bind, Except.bind, if_neg hlow, if_neg hhigh, Char.ofNat_toNat]
  rfl

theorem lowHalf_of_writes {high low : Nat} {digits : List Char} (h : WritesUnit low digits)
    (hlow : 0xDC00 ≤ low ∧ low ≤ 0xDFFF) (rest : List Char) :
    lowHalf high ('\\' :: 'u' :: (digits ++ rest)) =
      .ok (Char.ofNat (0x10000 + (high - 0xD800) * 0x400 + (low - 0xDC00)), 11) := by
  have hin : (decide (0xDC00 ≤ low) && decide (low ≤ 0xDFFF)) = true := by simp [hlow]
  simp only [lowHalf, hexUnit_of_writes h, bind, Except.bind, if_pos hin]
  rfl

theorem escape_pair {c : Char} {high low : Nat} {first second : List Char} (hfirst : WritesUnit high first)
    (hsecond : WritesUnit low second) (hhigh : 0xD800 ≤ high ∧ high ≤ 0xDBFF) (hlow : 0xDC00 ≤ low ∧ low ≤ 0xDFFF)
    (hc : c.toNat = 0x10000 + (high - 0xD800) * 0x400 + (low - 0xDC00)) (rest : List Char) :
    escape ('u' :: (first ++ '\\' :: 'u' :: (second ++ rest))) = .ok (c, 11) := by
  have hout : ¬ ((decide (0xDC00 ≤ high) && decide (high ≤ 0xDFFF)) = true) := by
    simp only [Bool.and_eq_true, decide_eq_true_eq]
    omega
  have hin : (decide (0xD800 ≤ high) && decide (high ≤ 0xDBFF)) = true := by simp [hhigh]
  have hdrop : (first ++ '\\' :: 'u' :: (second ++ rest)).drop 4 = '\\' :: 'u' :: (second ++ rest) := by
    rw [← hfirst.length_eq, List.drop_left]
  simp only [escape, hexUnit_of_writes hfirst, bind, Except.bind, if_neg hout, if_pos hin, hdrop,
    lowHalf_of_writes hsecond hlow]
  rw [← hc, Char.ofNat_toNat]

theorem escape_letter {c l : Char} (h : (l, c) ∈ letters) (rest : List Char) : escape (l :: rest) = .ok (c, 1) := by
  simp only [letters, List.mem_cons, List.not_mem_nil, or_false, Prod.mk.injEq] at h
  rcases h with ⟨rfl, rfl⟩ | ⟨rfl, rfl⟩ | ⟨rfl, rfl⟩ | ⟨rfl, rfl⟩ | ⟨rfl, rfl⟩ | ⟨rfl, rfl⟩ | ⟨rfl, rfl⟩ |
    ⟨rfl, rfl⟩ <;> rfl

/-! ## Strings -/

theorem stringFrom_skip (taken : List Char) (front rest : List Char) :
    stringFrom front.length taken (front ++ rest) = stringFrom 0 taken rest := by
  induction front with
  | nil => rfl
  | cons c front ih => exact ih

/-- behind a backslash, as many characters are passed over as the escape says -/
theorem stringFrom_escape {c : Char} {front rest : List Char} (taken : List Char)
    (h : escape (front ++ rest) = .ok (c, front.length)) :
    stringFrom 0 taken ('\\' :: (front ++ rest)) = stringFrom 0 (c :: taken) rest := by
  have hslash : ('\\' == '"') = false := by decide
  simp only [stringFrom, hslash, Bool.false_eq_true, if_false, beq_self_eq_true, if_true, h]
  exact stringFrom_skip (c :: taken) front rest

/-- one step: a character is taken in any of its written forms -/
theorem stringFrom_of_writesChar {c : Char} {text : List Char} (h : WritesChar c text) (taken rest : List Char) :
    stringFrom 0 taken (text ++ rest) = stringFrom 0 (c :: taken) rest := by
  cases h with
  | plain hcontrol hquote hslash =>
    have hlong : ¬ c.toNat < 0x20 := by omega
    simp [stringFrom, hquote, hslash, hlong]
  | @letter l hl =>
    have hescape : escape ([l] ++ rest) = .ok (c, [l].length) := escape_letter hl rest
    exact stringFrom_escape taken hescape
  | @unit digits hunit =>
    have hlength : ('u' :: digits).length = 5 := by simp [hunit.length_eq]
    have hescape : escape ('u' :: digits ++ rest) = .ok (c, ('u' :: digits).length) := by
      rw [hlength]
      exact escape_unit hunit rest
    exact stringFrom_escape taken hescape
  | @pair high low first second hfirst hsecond hhigh hlow hc =>
    have hlength : ('u' :: (first ++ '\\' :: 'u' :: second)).length = 11 := by
      simp [hfirst.length_eq, hsecond.length_eq]
    have hescape : escape ('u' :: (first ++ '\\' :: 'u' :: second) ++ rest) =
        .ok (c, ('u' :: (first ++ '\\' :: 'u' :: second)).length) := by
      rw [hlength]
      simpa using escape_pair hfirst hsecond hhigh hlow hc rest
    exact stringFrom_escape taken hescape

theorem stringFrom_of_writesChars {cs text : List Char} (h : WritesChars cs text) (taken rest : List Char) :
    stringFrom 0 taken (text ++ '"' :: rest) = .ok (String.ofList (taken.reverse ++ cs), rest) := by
  induction h generalizing taken with
  | nil => simp [stringFrom]
  | @cons c cs text more hc hcs ih =>
    calc
      stringFrom 0 taken (text ++ more ++ '"' :: rest) = stringFrom 0 taken (text ++ (more ++ '"' :: rest)) := by
        rw [List.append_assoc]
      _ = stringFrom 0 (c :: taken) (more ++ '"' :: rest) := stringFrom_of_writesChar hc taken _
      _ = .ok (String.ofList ((c :: taken).reverse ++ cs), rest) := ih (c :: taken)
      _ = .ok (String.ofList (taken.reverse ++ c :: cs), rest) := by simp

/-- a written string begins with a quote and is read from behind it -/
theorem string_of_writes {s : String} {text : List Char} (h : WritesString s text) :
    ∃ inner, text = '"' :: inner ∧ ∀ rest, string (inner ++ rest) = .ok (s, rest) := by
  cases h with
  | @quoted inner hinner =>
    refine ⟨inner ++ ['"'], rfl, ?_⟩
    intro rest
    rw [List.append_assoc]
    exact (stringFrom_of_writesChars hinner [] rest).trans (by simp)

/-! ## Values and members -/

theorem value_of_writes {v : Value} {text blanks : List Char} (h : WritesValue v text) (hblanks : Blanks blanks)
    (depth : Nat) (rest : List Char) : value depth (blanks ++ (text ++ rest)) = .ok (v, rest) := by
  have hskip : skipSpace (blanks ++ (text ++ rest)) = text ++ rest := by
    rw [skipSpace_append hblanks]
    cases h with
    | null => rfl
    | yes => rfl
    | no => rfl
    | string hs =>
      obtain ⟨inner, rfl, -⟩ := string_of_writes hs
      rfl
  cases h with
  | null => rw [value, hskip]; rfl
  | yes => rw [value, hskip]; rfl
  | no => rw [value, hskip]; rfl
  | string hs =>
    obtain ⟨inner, rfl, hread⟩ := string_of_writes hs
    rw [value, hskip]
    simp [scalar?, hread, Except.map]

/-- a member is read from its quote on; the blanks behind its value are left -/
theorem member_of_writes {m : String × Value} {text : List Char} (h : WritesMember m text) (depth : Nat) :
    ∃ inner blanks, Blanks blanks ∧ (∀ rest, skipSpace (text ++ rest) = '"' :: (inner ++ rest)) ∧
      ∀ rest, member (value depth) ('"' :: (inner ++ rest)) = .ok (m, blanks ++ rest) := by
  cases h with
  | @member name v a b c d key text ha hkey hb hc hvalue hd =>
    obtain ⟨inner, rfl, hread⟩ := string_of_writes hkey
    refine ⟨inner ++ (b ++ ':' :: (c ++ (text ++ d))), d, hd, ?_, ?_⟩
    · intro rest
      rw [List.append_assoc]
      exact skipSpace_token ha (by decide) _
    · intro rest
      have hcolon := skipSpace_token hb (c := ':') (by decide) (c ++ (text ++ (d ++ rest)))
      simp [member, hread, hcolon, value_of_writes hvalue hc, bind, Except.bind, pure, Except.pure]

def nextMembers (item : Reader Value) (bound : Nat) (text : List Char) :
    Except Stop (List (String × Value) × List Char) := do
  let (one, after) ← member item text
  let (more, after) ← members item bound false after
  return (one :: more, after)

theorem nextMembers_ok {item : Reader Value} {bound : Nat} {text after rest : List Char} {m : String × Value}
    {ms : List (String × Value)} (hone : member item text = .ok (m, after))
    (hmore : members item bound false after = .ok (ms, rest)) : nextMembers item bound text = .ok (m :: ms, rest) := by
  simp only [nextMembers, hone, hmore, bind, Except.bind]
  rfl

theorem members_close (item : Reader Value) (bound : Nat) (first : Bool) {blanks : List Char} (h : Blanks blanks)
    (rest : List Char) : members item (bound + 1) first (blanks ++ '}' :: rest) = .ok ([], rest) := by
  simp [members, skipSpace_token h (c := '}') (by decide) rest]

theorem members_first (item : Reader Value) (bound : Nat) {text inner : List Char} (h : skipSpace text = '"' :: inner) :
    members item (bound + 1) true text = nextMembers item bound ('"' :: inner) := by
  simp [members, h, nextMembers]

theorem members_comma (item : Reader Value) (bound : Nat) {blanks text inner : List Char} (hblanks : Blanks blanks)
    (h : skipSpace text = '"' :: inner) :
    members item (bound + 1) false (blanks ++ ',' :: text) = nextMembers item bound ('"' :: inner) := by
  simp [members, skipSpace_token hblanks (c := ',') (by decide) text, h, nextMembers]

/-- the members are read up to the closing brace -/
theorem nextMembers_of_writes {ms : List (String × Value)} {text : List Char} (h : WritesMembers ms text) (depth : Nat)
    {bound : Nat} (hbound : ms.length ≤ bound) (rest : List Char) :
    ∃ inner, skipSpace (text ++ '}' :: rest) = '"' :: inner ∧
      nextMembers (value depth) bound ('"' :: inner) = .ok (ms, rest) := by
  -- along the members: behind each, blanks and then a brace or a comma; the bound goes down by one with each comma
  induction h generalizing bound with
  | @one m text hm =>
    obtain ⟨inner, blanks, hblanks, hskip, hread⟩ := member_of_writes hm depth
    obtain ⟨bound, rfl⟩ : ∃ n, bound = n + 1 := ⟨bound - 1, by simp at hbound; omega⟩
    refine ⟨_, hskip _, ?_⟩
    exact nextMembers_ok (hread _) (members_close _ _ _ hblanks _)
  | @cons m ms text more hm hms ih =>
    obtain ⟨inner, blanks, hblanks, hskip, hread⟩ := member_of_writes hm depth
    obtain ⟨bound, rfl⟩ : ∃ n, bound = n + 1 := ⟨bound - 1, by simp at hbound; omega⟩
    obtain ⟨inner', hskip', hread'⟩ := @ih bound (by simpa using hbound)
    refine ⟨inner ++ ',' :: (more ++ '}' :: rest), ?_, ?_⟩
    · rw [List.append_assoc]
      exact hskip _
    · exact nextMembers_ok (hread _) ((members_comma _ _ hblanks hskip').trans hread')

theorem WritesMember.length_pos {m : String × Value} {text : List Char} (h : WritesMember m text) :
    0 < text.length := by
  cases h
  simp only [List.length_append, List.length_cons]
  omega

/-- there are not more members than characters -/
theorem WritesMembers.length_le {ms : List (String × Value)} {text : List Char} (h : WritesMembers ms text) :
    ms.length ≤ text.length := by
  induction h with
  | one hm => exact hm.length_pos
  | cons hm hms ih =>
    simp only [List.length_cons, List.length_append]
    omega

/-- **Reading gives back what was written**: the members, with repeated names collected. -/
theorem wholeObject_of_writes {ms : List (String × Value)} {text : List Char} (h : WritesObject ms text) :
    wholeObject text = .ok (collect ms) := by
  cases h with
  | @empty a b c ha hb hc =>
    have hopen := skipSpace_token ha (c := '{') (by decide) (b ++ '}' :: c)
    simp [wholeObject, hopen, members_close _ _ _ hb, skipSpace_blanks hc, bind, Except.bind, pure, Except.pure]
  | @members _ a text b ha hms hb =>
    have hopen := skipSpace_token ha (c := '{') (by decide) (text ++ '}' :: b)
    have hbound : ms.length ≤ (text ++ '}' :: b).length := by
      have := hms.length_le
      rw [List.length_append]
      omega
    obtain ⟨inner, hskip, hread⟩ := nextMembers_of_writes hms (maxDepth - 1) hbound b
    have hmembers := (members_first (value (maxDepth - 1)) (text ++ '}' :: b).length hskip).trans hread
    simp only [wholeObject, hopen, hmembers, bind, Except.bind, skipSpace_blanks hb]
    rfl

theorem readObject_of_writes {ms : List (String × Value)} {text : String} (h : WritesObject ms text.toList) :
    readObject text = .ok (collect ms) := by
  rw [readObject, wholeObject_of_writes h]

end ComponentCompiler.Json
