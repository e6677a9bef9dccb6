/-
BlockConfig.Text.Visible — what is left of a text when the parts that
steer a terminal are taken out.

A word of the user may hold control characters and control sequences: a
change of colour, a new title for the window. Shown as they are, they
would act on the terminal of whoever reads the message, so a message shows
`Visible.ofText` of such a word.

A sequence begins with the escape character and goes through the phases of
`Phase`; the character that ends it depends on how it began. Outside of
sequences everything is shown but the controls that do not lay the text
out. Nothing of a sequence is shown, except for a layout character that
interrupts it; a string swallows even those. A sequence that is not ended
when the text ends is left out as well: that is why a text is read as a
whole and not word by word where nothing sets the words off from one
another.

There are two readers. They differ in what becomes of an interrupted
sequence. To the reader of a message it is over (`Visible.ofText`). On a
stream it is only put aside while characters are shown, and goes on at the
next one that is not, unless a character beyond ASCII has come in between
(`Visible.onStream`).
-/

namespace BlockConfig.Visible

/-- Where in a text a reader is. -/
inductive Phase
  | plain
  /-- Behind an escape character. -/
  | escape
  /-- In an escape sequence of several characters. -/
  | escapeMiddle
  /-- In a control sequence, which a letter ends. -/
  | control
  /-- In a command to the operating system, which a bell ends. -/
  | systemCommand
  /-- In the head of a string for the device, at its start, ... -/
  | deviceStart
  /-- ... among its parameters, ... -/
  | deviceParameters
  /-- ... or behind them. -/
  | deviceMiddle
  /-- In a string that only its terminator ends. -/
  | string
deriving DecidableEq

/-- The controls that lay a text out: tab, line feed, form feed, carriage
return. -/
def isLayout (c : Char) : Bool := c = '\t' || c = '\n' || c = '\x0c' || c = '\r'

/-- Whether a character stands between two code points. -/
def between (low : Nat) (c : Char) (high : Nat) : Bool := low ≤ c.toNat && c.toNat ≤ high

/-- Whether the byte 9C, the terminator of strings, is one of the bytes of
a character. -/
def holdsTerminator (c : Char) : Bool := (String.utf8EncodeChar c).contains 0x9c

/-- The phase behind the escape character and one character more. -/
def Phase.afterEscape (c : Char) : Phase :=
  if c = '[' then .control
  else if c = ']' then .systemCommand
  else if c = 'P' then .deviceStart
  else if c = 'X' || c = '^' || c = '_' then .string
  else if between 0x20 c 0x2f then .escapeMiddle
  else if between 0x30 c 0x7e then .plain
  else .escape

/-- The phase after a character that is neither shown nor an escape
character nor a cancelling control. -/
def Phase.next (c : Char) : Phase → Phase
  | .plain => .plain
  | .escape => .afterEscape c
  | .escapeMiddle => if between 0x30 c 0x7e then .plain else .escapeMiddle
  | .control => if between 0x40 c 0x7e then .plain else .control
  | .systemCommand => if c = '\x07' then .plain else .systemCommand
  | .deviceStart =>
    if between 0x20 c 0x2f then .deviceMiddle
    else if between 0x30 c 0x3f then .deviceParameters
    else if between 0x40 c 0x7e then .string
    else .deviceStart
  | .deviceParameters =>
    if between 0x20 c 0x2f then .deviceMiddle
    else if between 0x3c c 0x7e then .string
    else .deviceParameters
  | .deviceMiddle => if between 0x30 c 0x7e then .string else .deviceMiddle
  | .string => if holdsTerminator c then .plain else .string

def Phase.shows (c : Char) : Phase → Bool
  | .plain => isLayout c || (0x20 ≤ c.toNat && c ≠ '\x7f')
  | .escape | .escapeMiddle | .control => isLayout c
  | _ => false

/-- A reader of a text: where it is, and whether it has shown the character
before. While it shows characters it goes on as outside of sequences. -/
structure Reader where
  phase : Phase := .plain
  showing : Bool := false
deriving DecidableEq

namespace Reader

def shows (r : Reader) (c : Char) : Bool :=
  if r.showing then Phase.plain.shows c else r.phase.shows c

/-- The reader behind a character. The flag tells whether an interrupted
sequence is put aside or over. -/
def next (putsAside : Bool) (r : Reader) (c : Char) : Reader :=
  if c = '\x1b' then { phase := .escape }
  else if c = '\x18' || c = '\x1a' then { phase := .plain }
  else if r.shows c then
    { phase := if putsAside && c.toNat < 0x80 then r.phase else .plain, showing := true }
  else { phase := r.phase.next c }

end Reader

/-- The characters of a text that a reader shows. -/
def shown (putsAside : Bool) : Reader → List Char → List Char
  | _, [] => []
  | r, c :: rest =>
    if r.shows c then c :: shown putsAside (r.next putsAside c) rest
    else shown putsAside (r.next putsAside c) rest

def ofText (s : String) : String := String.ofList (shown false {} s.toList)

/-- What is visible of a text that is written to a stream. -/
def onStream (s : String) : String := String.ofList (shown true {} s.toList)

/-- Nothing is taken out where nothing controls. -/
theorem shown_eq_self (putsAside : Bool) {r : Reader} (hr : r.phase = .plain) {cs : List Char}
    (h : ∀ c ∈ cs, 0x20 ≤ c.toNat ∧ c ≠ '\x7f') : shown putsAside r cs = cs := by
  induction cs generalizing r with
  | nil => rfl
  | cons c rest ih =>
    obtain ⟨hlow, hdel⟩ := h c (by simp)
    have hne : ∀ d : Char, d.toNat < 0x20 → c ≠ d := by
      intro d hd hcd
      subst hcd
      omega
    have hshows : r.shows c = true := by
      simp [Reader.shows, hr, Phase.shows, hlow, hdel]
    have hnext : (r.next putsAside c).phase = .plain := by
      simp [Reader.next, hne '\x1b' (by decide), hne '\x18' (by decide), hne '\x1a' (by decide),
        hshows, hr]
    rw [shown, if_pos hshows, ih hnext fun d hd => h d (by simp [hd])]

/-- A text without controls is visible as a whole. -/
theorem ofText_eq_self {s : String} (h : ∀ c ∈ s.toList, 0x20 ≤ c.toNat ∧ c ≠ '\x7f') :
    ofText s = s := by
  rw [ofText, shown_eq_self false rfl h, String.ofList_toList]

theorem onStream_eq_self {s : String} (h : ∀ c ∈ s.toList, 0x20 ≤ c.toNat ∧ c ≠ '\x7f') :
    onStream s = s := by
  rw [onStream, shown_eq_self true rfl h, String.ofList_toList]

/-! ## Samples -/

example : ofText "a\x1b[31mb\x1b]0;title\x07c\x7f" = "abc" := by decide

example : ofText "x\x1b[3\n1\x07mé" = "x\n1mé" := by decide

example : onStream "x\x1b[3\n1\x07mé" = "x\n1é" := by decide

end BlockConfig.Visible
