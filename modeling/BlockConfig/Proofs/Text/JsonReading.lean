/-
BlockConfig.Proofs.Text.JsonReading — a JSON object of texts, read.

The reader knows nothing of how an object was written. It takes the text
apart into tokens (`Json.tokens`), passing over blanks between them and
following every escape of a string, those with four hexadecimal digits and
those of surrogate pairs included. Then it reads the tokens as one object
whose values are texts (`Json.members?`). Whatever is no such object is not
read: a control character inside a string, half of a surrogate pair, a
comma behind the last member, anything behind the closing brace.

What was written lexes piece by piece (`Json.Lexes`), whatever stands behind
the piece. So an object is read back as its pairs in any layout made of
blanks (`Json.read?_object`). Two layouts differ in blanks outside of strings
only: without those the text is the same (`Json.squeeze_object`).
-/
import BlockConfig.Text.Json

namespace BlockConfig.Json

/-! ## 1. Reading -/

/-- What an object of texts is made of. -/
inductive Token
  | opening
  | closing
  | colon
  | comma
  | text (s : String)
deriving DecidableEq

/-- The characters that may stand between tokens. -/
def isBlank (c : Char) : Bool := c = ' ' || c = '\t' || c = '\n' || c = '\r'

/-- The token that is a single character. -/
def punctuation? : Char → Option Token
  | '\x7b' => some .opening
  | '\x7d' => some .closing
  | ':' => some .colon
  | ',' => some .comma
  | _ => none

/-- What a character stands for behind a backslash. -/
def escaped? : Char → Option Char
  | '"' => some '"'
  | '\\' => some '\\'
  | '/' => some '/'
  | 'b' => some '\x08'
  | 'f' => some '\x0c'
  | 'n' => some '\n'
  | 'r' => some '\r'
  | 't' => some '\t'
  | _ => none

/-- The value of a hexadecimal digit, in either case. -/
def hexValue? (c : Char) : Option Nat :=
  if '0' ≤ c ∧ c ≤ '9' then some (c.toNat - '0'.toNat)
  else if 'a' ≤ c ∧ c ≤ 'f' then some (c.toNat - 'a'.toNat + 10)
  else if 'A' ≤ c ∧ c ≤ 'F' then some (c.toNat - 'A'.toNat + 10)
  else none

/-- The value of four hexadecimal digits. -/
def hexValues? (a b c d : Char) : Option Nat := do
  let a ← hexValue? a
  let b ← hexValue? b
  let c ← hexValue? c
  let d ← hexValue? d
  return ((a * 16 + b) * 16 + c) * 16 + d

/-- Whether a number is the first half of a surrogate pair. -/
def isHigh (n : Nat) : Bool := 0xd800 ≤ n && n < 0xdc00

/-- Whether a number is the second half of a surrogate pair. -/
def isLow (n : Nat) : Bool := 0xdc00 ≤ n && n < 0xe000

mutual

-- One pass over the characters, now outside of strings and now inside.

/-- The tokens of a text. -/
def tokens : List Char → Option (List Token)
  | [] => some []
  | c :: rest =>
    if c = '"' then textTokens [] rest
    else if isBlank c then tokens rest
    else match punctuation? c with
      | some t => (tokens rest).map (t :: ·)
      | none => none

/-- The tokens from within a string on. What was read of the string stands
in front, in reverse. -/
def textTokens (read : List Char) : List Char → Option (List Token)
  | [] => none
  | '"' :: rest => (tokens rest).map (.text (String.ofList read.reverse) :: ·)
  | '\\' :: 'u' :: a :: b :: c :: d :: rest =>
    match hexValues? a b c d with
    | none => none
    | some n =>
      if isHigh n then
        -- It counts only with the other half right behind it.
        match rest with
        | '\\' :: 'u' :: a :: b :: c :: d :: rest =>
          match hexValues? a b c d with
          | none => none
          | some m =>
            if isLow m then
              textTokens (Char.ofNat (0x10000 + (n - 0xd800) * 0x400 + (m - 0xdc00)) :: read) rest
            else none
        | _ => none
      else if isLow n then none
      else textTokens (Char.ofNat n :: read) rest
  | '\\' :: c :: rest =>
    match escaped? c with
    | none => none
    | some e => textTokens (e :: read) rest
  | c :: rest => if c.toNat < 0x20 then none else textTokens (c :: read) rest

end

/-- The members behind the first one, up to the closing brace. -/
def furtherMembers? : List Token → Option (List (String × String))
  | [.closing] => some []
  | .comma :: .text key :: .colon :: .text value :: rest =>
    (furtherMembers? rest).map ((key, value) :: ·)
  | _ => none

/-- The members of an object. -/
def members? : List Token → Option (List (String × String))
  | [.opening, .closing] => some []
  | .opening :: .text key :: .colon :: .text value :: rest =>
    (furtherMembers? rest).map ((key, value) :: ·)
  | _ => none

/-- Read a text as one object of texts. -/
def read? (text : String) : Option (List (String × String)) :=
  (tokens text.toList).bind members?

/-! ## 2. Characters of strings -/

theorem hexValue?_hexDigit (n : Nat) : hexValue? (hexDigit n) = some (n % 16) := by
  have hdigits : ∀ m < 16, hexValue? (Nat.digitChar m) = some m := by decide
  exact hdigits (n % 16) (Nat.mod_lt n (by decide))

/-- What a control character is written as tells its code. -/
theorem hexValues?_control {n : Nat} (h : n < 0x20) :
    hexValues? '0' '0' (hexDigit (n / 16)) (hexDigit n) = some n := by
  have hzero : hexValue? '0' = some 0 := by decide
  rw [hexValues?, hexValue?_hexDigit, hexValue?_hexDigit, hzero]
  simp only [Option.bind_eq_bind, Option.bind_some, Option.pure_def, Option.some.injEq]
  omega

/-- A character that is written as itself is read as itself. -/
theorem textTokens_plain {c : Char} (hquote : c ≠ '"') (hescape : c ≠ '\\')
    (hcontrol : ¬ c.toNat < 0x20) (read rest : List Char) :
    textTokens read (c :: rest) = textTokens (c :: read) rest := by
  rw [textTokens]
  · exact if_neg hcontrol
  all_goals simp_all

theorem textTokens_control {c : Char} (h : c.toNat < 0x20) (read rest : List Char) :
    textTokens read
        (['\\', 'u', '0', '0', hexDigit (c.toNat / 16), hexDigit c.toNat] ++ rest)
      = textTokens (c :: read) rest := by
  have hhigh : isHigh c.toNat = false := by simp [isHigh]; omega
  have hlow : isLow c.toNat = false := by simp [isLow]; omega
  simp only [List.cons_append, List.nil_append]
  rw [textTokens, hexValues?_control h]
  simp only [hhigh, hlow, Bool.false_eq_true, if_false, Char.ofNat_toNat]

/-- Each character of a string is read back, however it is written. -/
theorem textTokens_escape (c : Char) (read rest : List Char) :
    textTokens read (escape c ++ rest) = textTokens (c :: read) rest := by
  unfold escape
  -- The short escapes, in the order in which they are tried.
  iterate 7
    split
    · next h =>
      subst h
      rfl
  split
  · next h => exact textTokens_control h read rest
  · next hquote hescape _ _ _ _ _ hcontrol =>
    exact textTokens_plain hquote hescape hcontrol read rest

theorem textTokens_flatMap_escape (cs read rest : List Char) :
    textTokens read (cs.flatMap escape ++ rest) = textTokens (cs.reverse ++ read) rest := by
  induction cs generalizing read with
  | nil => rfl
  | cons c cs ih =>
    rw [List.flatMap_cons, List.append_assoc, textTokens_escape, ih, List.reverse_cons,
      List.append_assoc]
    rfl

/-! ## 3. Pieces of an object -/

/-- A piece of a text lexes to some tokens, whatever stands behind it. -/
def Lexes (piece : List Char) (ts : List Token) : Prop :=
  ∀ rest, tokens (piece ++ rest) = (tokens rest).map (ts ++ ·)

theorem not_blank_of_punctuation? {c : Char} {t : Token} (h : punctuation? c = some t) :
    c ≠ '"' ∧ isBlank c = false := by
  unfold punctuation? at h
  split at h <;> first | exact ⟨by decide, rfl⟩ | cases h

namespace Lexes

theorem nil : Lexes [] [] := fun rest => by simp

theorem append {piece more : List Char} {ts us : List Token} (h : Lexes piece ts)
    (h' : Lexes more us) : Lexes (piece ++ more) (ts ++ us) := by
  intro rest
  rw [List.append_assoc, h, h', Option.map_map]
  simp [Function.comp_def]

theorem tokens_eq {piece : List Char} {ts : List Token} (h : Lexes piece ts) :
    tokens piece = some ts := by
  have hend := h []
  rw [List.append_nil] at hend
  simpa [tokens] using hend

theorem blank {c : Char} (h : isBlank c = true) : Lexes [c] [] := by
  intro rest
  have hquote : c ≠ '"' := by
    rintro rfl
    cases h
  rw [List.cons_append, tokens, if_neg hquote, if_pos h]
  simp

theorem blanks {cs : List Char} (h : cs.all isBlank = true) : Lexes cs [] := by
  induction cs with
  | nil => exact nil
  | cons c cs ih =>
    rw [List.all_cons, Bool.and_eq_true] at h
    obtain ⟨hc, hcs⟩ := h
    exact (blank hc).append (ih hcs)

theorem punctuation {c : Char} {t : Token} (h : punctuation? c = some t) : Lexes [c] [t] := by
  intro rest
  obtain ⟨hquote, hblank⟩ := not_blank_of_punctuation? h
  rw [List.cons_append, tokens, if_neg hquote, if_neg (Bool.eq_false_iff.1 hblank), h]
  rfl

theorem quote (s : String) : Lexes (quote s) [.text s] := by
  intro rest
  rw [Json.quote, List.cons_append, List.append_assoc, tokens, if_pos rfl,
    textTokens_flatMap_escape]
  simp [textTokens]

end Lexes

/-! ## 4. Objects -/

/-- A layout that is made of blanks. -/
structure Layout.Blank (l : Layout) : Prop where
  afterOpen : l.afterOpen.all isBlank = true
  afterComma : l.afterComma.all isBlank = true
  afterColon : l.afterColon.all isBlank = true
  beforeClose : l.beforeClose.all isBlank = true

theorem Layout.blank_compact : Layout.compact.Blank := ⟨rfl, rfl, rfl, rfl⟩

theorem Layout.blank_pretty : Layout.pretty.Blank := ⟨rfl, rfl, rfl, rfl⟩

variable {l : Layout}

def memberTokens (pair : String × String) : List Token := [.text pair.1, .colon, .text pair.2]

def furtherTokens (pairs : List (String × String)) : List Token :=
  pairs.flatMap fun pair => .comma :: memberTokens pair

theorem lexes_member (hl : l.Blank) (pair : String × String) :
    Lexes (member l pair) (memberTokens pair) :=
  (Lexes.quote pair.1).append ((Lexes.punctuation (c := ':') rfl).append
    ((Lexes.blanks hl.afterColon).append (Lexes.quote pair.2)))

theorem lexes_furtherMembers (hl : l.Blank) (pairs : List (String × String)) :
    Lexes (furtherMembers l pairs) (furtherTokens pairs) := by
  induction pairs with
  | nil => exact .nil
  | cons pair rest ih =>
    exact (Lexes.punctuation (c := ',') rfl).append
      (((Lexes.blanks hl.afterComma).append (lexes_member hl pair)).append ih)

def objectTokens : List (String × String) → List Token
  | [] => [.opening, .closing]
  | pair :: rest => .opening :: (memberTokens pair ++ furtherTokens rest ++ [.closing])

theorem lexes_object (hl : l.Blank) (pairs : List (String × String)) :
    Lexes (object l pairs) (objectTokens pairs) := by
  have hopening : Lexes ['\x7b'] [.opening] := .punctuation rfl
  have hclosing : Lexes ['\x7d'] [.closing] := .punctuation rfl
  cases pairs with
  | nil => exact hopening.append hclosing
  | cons pair rest =>
    have hmembers := ((Lexes.blanks hl.afterOpen).append (lexes_member hl pair)).append
      (lexes_furtherMembers hl rest)
    have hobject := hopening.append
      (hmembers.append ((Lexes.blanks hl.beforeClose).append hclosing))
    simpa [object, objectTokens] using hobject

theorem furtherMembers?_furtherTokens (pairs : List (String × String)) :
    furtherMembers? (furtherTokens pairs ++ [.closing]) = some pairs := by
  induction pairs with
  | nil => rfl
  | cons pair rest ih =>
    show (furtherMembers? (furtherTokens rest ++ [.closing])).map (pair :: ·) = _
    rw [ih]
    rfl

theorem members?_objectTokens (pairs : List (String × String)) :
    members? (objectTokens pairs) = some pairs := by
  cases pairs with
  | nil => rfl
  | cons pair rest =>
    show (furtherMembers? (furtherTokens rest ++ [.closing])).map (pair :: ·) = _
    rw [furtherMembers?_furtherTokens]
    rfl

/-- An object is read back as its pairs, in any layout made of blanks and
with blanks behind it. -/
theorem read?_object (hl : l.Blank) (pairs : List (String × String)) {after : List Char}
    (hafter : after.all isBlank = true) :
    read? (String.ofList (object l pairs ++ after)) = some pairs := by
  rw [read?, String.toList_ofList, ((lexes_object hl pairs).append (.blanks hafter)).tokens_eq,
    List.append_nil]
  exact members?_objectTokens pairs

theorem read?_compact (pairs : List (String × String)) : read? (compact pairs) = some pairs := by
  have hnothing : ([] : List Char).all isBlank = true := rfl
  have hread := read?_object Layout.blank_compact pairs hnothing
  rwa [List.append_nil] at hread

theorem read?_pretty (pairs : List (String × String)) : read? (pretty pairs) = some pairs := by
  have hnothing : ([] : List Char).all isBlank = true := rfl
  have hread := read?_object Layout.blank_pretty pairs hnothing
  rwa [List.append_nil] at hread

/-- Escapes of every kind, and blanks where they may stand. -/
example : read? "\t\x7b \"\\u00e9\\ud83d\\uDE00\" :\n\"\\/\\n\" , \"a\":\"\" \x7d\r"
    = some [("é😀", "/\n"), ("a", "")] := by decide +kernel

/-- Half of a surrogate pair. -/
example : read? "\x7b\"a\":\"\\ud83d\"\x7d" = none := by decide +kernel

/-! ## 5. Blanks between tokens -/

/-- A text without the blanks outside of its strings, from within a string
or from outside on. -/
def squeeze : (inside : Bool) → List Char → List Char
  | _, [] => []
  | true, '\\' :: c :: rest => '\\' :: c :: squeeze true rest
  | true, c :: rest => c :: squeeze (c ≠ '"') rest
  | false, c :: rest => if isBlank c then squeeze false rest else c :: squeeze (c = '"') rest

/-- A text without the blanks outside of its strings. -/
def withoutBlanks (text : String) : String := String.ofList (squeeze false text.toList)

theorem squeeze_plain {c : Char} (hquote : c ≠ '"') (hescape : c ≠ '\\') (rest : List Char) :
    squeeze true (c :: rest) = c :: squeeze true rest := by
  rw [squeeze]
  · simp [hquote]
  · simp_all

theorem squeeze_hexDigit (n : Nat) (rest : List Char) :
    squeeze true (hexDigit n :: rest) = hexDigit n :: squeeze true rest := by
  have hdigits : ∀ m < 16, Nat.digitChar m ≠ '"' ∧ Nat.digitChar m ≠ '\\' := by decide
  obtain ⟨hquote, hescape⟩ := hdigits (n % 16) (Nat.mod_lt n (by decide))
  exact squeeze_plain hquote hescape rest

theorem squeeze_escape (c : Char) (rest : List Char) :
    squeeze true (escape c ++ rest) = escape c ++ squeeze true rest := by
  unfold escape
  iterate 7
    split
    · rfl
  split
  · show '\\' :: 'u' :: '0' :: '0' :: squeeze true (hexDigit _ :: hexDigit _ :: rest) = _
    rw [squeeze_hexDigit, squeeze_hexDigit]
    rfl
  · next hquote hescape _ _ _ _ _ _ => exact squeeze_plain hquote hescape rest

theorem squeeze_flatMap_escape (cs rest : List Char) :
    squeeze true (cs.flatMap escape ++ rest) = cs.flatMap escape ++ squeeze true rest := by
  induction cs with
  | nil => rfl
  | cons c cs ih =>
    rw [List.flatMap_cons, List.append_assoc, squeeze_escape, ih, List.append_assoc]

theorem squeeze_quote (s : String) (rest : List Char) :
    squeeze false (quote s ++ rest) = quote s ++ squeeze false rest := by
  rw [quote, List.cons_append, List.append_assoc, squeeze, if_neg (by decide), decide_eq_true rfl,
    squeeze_flatMap_escape]
  simp [squeeze]

theorem squeeze_blanks {cs : List Char} (h : cs.all isBlank = true) (rest : List Char) :
    squeeze false (cs ++ rest) = squeeze false rest := by
  induction cs with
  | nil => rfl
  | cons c cs ih =>
    rw [List.all_cons, Bool.and_eq_true] at h
    rw [List.cons_append, squeeze, if_pos h.1, ih h.2]

theorem squeeze_member (hl : l.Blank) (pair : String × String) (rest : List Char) :
    squeeze false (member l pair ++ rest) = member .compact pair ++ squeeze false rest := by
  have hcolon : ∀ cs, squeeze false (':' :: cs) = ':' :: squeeze false cs := fun _ => rfl
  simp only [member, Layout.compact, List.append_assoc, List.cons_append, List.nil_append,
    squeeze_quote, hcolon, squeeze_blanks hl.afterColon]

theorem squeeze_furtherMembers (hl : l.Blank) (pairs : List (String × String))
    (rest : List Char) :
    squeeze false (furtherMembers l pairs ++ rest)
      = furtherMembers .compact pairs ++ squeeze false rest := by
  have hcomma : ∀ cs, squeeze false (',' :: cs) = ',' :: squeeze false cs := fun _ => rfl
  induction pairs with
  | nil => rfl
  | cons pair pairs ih =>
    simp only [furtherMembers, List.cons_append, List.append_assoc, hcomma,
      squeeze_blanks hl.afterComma, squeeze_member hl, ih]
    rfl

/-- A layout made of blanks differs from the compact one in blanks outside
of strings only. -/
theorem squeeze_object (hl : l.Blank) (pairs : List (String × String)) :
    squeeze false (object l pairs) = object .compact pairs := by
  have hopening : ∀ cs, squeeze false ('\x7b' :: cs) = '\x7b' :: squeeze false cs := fun _ => rfl
  cases pairs with
  | nil => rfl
  | cons pair rest =>
    simp only [object, List.append_assoc, hopening, squeeze_blanks hl.afterOpen,
      squeeze_member hl, squeeze_furtherMembers hl, squeeze_blanks hl.beforeClose]
    rfl

theorem withoutBlanks_compact (pairs : List (String × String)) :
    withoutBlanks (compact pairs) = compact pairs := by
  rw [withoutBlanks, compact, String.toList_ofList, squeeze_object Layout.blank_compact]

theorem withoutBlanks_pretty (pairs : List (String × String)) :
    withoutBlanks (pretty pairs) = compact pairs := by
  rw [withoutBlanks, pretty, String.toList_ofList, squeeze_object Layout.blank_pretty, compact]

end BlockConfig.Json
