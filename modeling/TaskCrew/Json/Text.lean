import TaskCrew.Json.Fault

/-!
# Blanks, literals and text values of a document

* `skipBlank` — the text after blanks, of which a document has four;
* `readLiteral` — the rest of a literal;
* `readText` — the characters of a text value, after its opening quote;
* `passText` — the text after a text value that nobody wants;
* `writeText` — a text value between quotes.

Each reader leaves no more than it was given (`readText_length`, …), by which the readers of values
end.

**Design.** A text value that is kept has to be Unicode, so surrogates are paired; one that is
passed over only has to be well formed.
-/

namespace TaskCrew.Json

/-! ## Blanks and literals -/

/-- Whether a character separates the tokens of a document. -/
def isSeparator (c : Char) : Bool :=
  c == ' ' || c == '\t' || c == '\n' || c == '\r'

def skipBlank (cs : List Char) : List Char :=
  cs.dropWhile isSeparator

theorem skipBlank_length (cs : List Char) : (skipBlank cs).length ≤ cs.length :=
  (List.dropWhile_suffix isSeparator).length_le

theorem length_of_skipBlank {cs rest : List Char} {c : Char} (h : skipBlank cs = c :: rest) :
    rest.length < cs.length := by
  have := skipBlank_length cs
  simp only [h, List.length_cons] at this
  omega

/-- The text after the given characters, which have to come next. -/
def readLiteral : List Char → List Char → Except Fault (List Char)
  | [], cs => .ok cs
  | _ :: _, [] => .error (.before .endInValue [])
  | x :: xs, c :: cs =>
    if c = x then readLiteral xs cs else .error (.past .expectedLiteral (c :: cs))

/-! ## Escapes -/

def hexValue? (c : Char) : Option Nat :=
  if '0' ≤ c ∧ c ≤ '9' then some (c.toNat - 48)
  else if 'a' ≤ c ∧ c ≤ 'f' then some (c.toNat - 87)
  else if 'A' ≤ c ∧ c ≤ 'F' then some (c.toNat - 55)
  else none

def hexCode? (a b c d : Char) : Option Nat :=
  match hexValue? a, hexValue? b, hexValue? c, hexValue? d with
  | some a, some b, some c, some d => some (4096 * a + 256 * b + 16 * c + d)
  | _, _, _, _ => none

/-- Why no code can be read: the text ends too early, or four bytes are no digits. -/
def codeFault (cs : List Char) : Fault :=
  if byteCount cs < 4 then .before .endInText [] else ⟨.invalidEscape, cs, 4⟩

/-- The code after an escape that announces one. -/
def readCode : List Char → Reading Nat
  | a :: b :: c :: d :: rest =>
    match hexCode? a b c d with
    | some n => .ok (n, rest)
    | none => .error (codeFault (a :: b :: c :: d :: rest))
  | cs => .error (codeFault cs)

/-- Whether a code is the first of a surrogate pair. -/
def isLeadingSurrogate (n : Nat) : Bool :=
  0xd800 ≤ n && n ≤ 0xdbff

/-- Whether a code is the second of a surrogate pair. -/
def isTrailingSurrogate (n : Nat) : Bool :=
  0xdc00 ≤ n && n ≤ 0xdfff

/-- The character of an escaped code, which may take a second one to complete a surrogate pair. -/
def readCodeChar (cs : List Char) : Reading Char :=
  match readCode cs with
  | .error f => .error f
  | .ok (n, rest) =>
    if isTrailingSurrogate n then .error (.before .loneSurrogate rest)
    else if isLeadingSurrogate n then
      match rest with
      | '\\' :: 'u' :: more =>
        match readCode more with
        | .error f => .error f
        | .ok (m, rest) =>
          if isTrailingSurrogate m then
            .ok (Char.ofNat (0x10000 + 1024 * (n - 0xd800) + (m - 0xdc00)), rest)
          else .error (.before .loneSurrogate rest)
      | [] | ['\\'] => .error (.before .endInText [])
      | '\\' :: more => .error (.past .missingSurrogate more)
      | more => .error (.past .missingSurrogate more)
    else .ok (Char.ofNat n, rest)

/-- The character that an escape of one letter stands for. -/
def escaped? : Char → Option Char
  | '"' => some '"'
  | '\\' => some '\\'
  | '/' => some '/'
  | 'b' => some '\x08'
  | 'f' => some '\x0c'
  | 'n' => some '\n'
  | 'r' => some '\r'
  | 't' => some '\t'
  | _ => none

/-- The character of an escape, after its backslash. -/
def readEscape : List Char → Reading Char
  | [] => .error (.before .endInText [])
  | 'u' :: rest => readCodeChar rest
  | c :: rest =>
    match escaped? c with
    | some e => .ok (e, rest)
    | none => .error (.past .invalidEscape (c :: rest))

/-- The text after an escape that nobody wants, after its backslash. -/
def passEscape : List Char → Except Fault (List Char)
  | [] => .error (.before .endInText [])
  | 'u' :: rest => (readCode rest).map (·.2)
  | c :: rest =>
    if (escaped? c).isSome then .ok rest else .error (.past .invalidEscape (c :: rest))

theorem readCode_length {cs rest : List Char} {n : Nat} (h : readCode cs = .ok (n, rest)) :
    rest.length ≤ cs.length := by
  unfold readCode at h
  split at h
  · split at h
    · simp only [Except.ok.injEq, Prod.mk.injEq] at h
      obtain ⟨-, rfl⟩ := h
      simp only [List.length_cons]; omega
    · simp at h
  · simp at h

theorem readCodeChar_length {cs rest : List Char} {c : Char}
    (h : readCodeChar cs = .ok (c, rest)) : rest.length ≤ cs.length := by
  unfold readCodeChar at h
  split at h
  · simp at h
  · next n r hr =>
    have hlen := readCode_length hr
    split at h
    · simp at h
    · split at h
      · split at h
        · next more =>
          split at h
          · simp at h
          · next m r' hr' =>
            have hlen' := readCode_length hr'
            split at h
            · simp only [Except.ok.injEq, Prod.mk.injEq] at h
              obtain ⟨-, rfl⟩ := h
              simp only [List.length_cons] at hlen; omega
            · simp at h
        all_goals simp at h
      · simp only [Except.ok.injEq, Prod.mk.injEq] at h
        obtain ⟨-, rfl⟩ := h
        exact hlen

theorem readEscape_length {cs rest : List Char} {c : Char} (h : readEscape cs = .ok (c, rest)) :
    rest.length ≤ cs.length := by
  unfold readEscape at h
  split at h
  · simp at h
  · have := readCodeChar_length h
    simp only [List.length_cons]; omega
  · split at h
    · simp only [Except.ok.injEq, Prod.mk.injEq] at h
      obtain ⟨-, rfl⟩ := h
      simp
    · simp at h

theorem passEscape_length {cs rest : List Char} (h : passEscape cs = .ok rest) :
    rest.length ≤ cs.length := by
  unfold passEscape at h
  split at h
  · simp at h
  · next r =>
    cases hr : readCode r with
    | error f => simp [hr, Except.map] at h
    | ok p =>
      obtain ⟨n, rest⟩ := p
      have := readCode_length hr
      simp only [hr, Except.map, Except.ok.injEq] at h
      simp only [List.length_cons]; subst h; omega
  · split at h
    · simp only [Except.ok.injEq] at h
      simp [h]
    · simp at h

/-! ## Text values -/

/-- The characters of a text value after its opening quote, added to those already read, which are
kept in reverse. -/
def readTextFrom (done : List Char) (cs : List Char) : Reading (List Char) :=
  match cs with
  | [] => .error (.before .endInText [])
  | '"' :: rest => .ok (done.reverse, rest)
  | '\\' :: rest =>
    match h : readEscape rest with
    | .error f => .error f
    | .ok (c, rest') =>
      have := readEscape_length h
      readTextFrom (c :: done) rest'
  | c :: rest =>
    if c.toNat < 32 then .error (.past .controlCharacter (c :: rest))
    else readTextFrom (c :: done) rest
  termination_by cs.length
  decreasing_by all_goals simp only [List.length_cons]; omega

/-- The characters of a text value, after its opening quote. -/
def readText (cs : List Char) : Reading (List Char) :=
  readTextFrom [] cs

/-- The text after a text value that nobody wants, after its opening quote. -/
def passText (cs : List Char) : Except Fault (List Char) :=
  match cs with
  | [] => .error (.before .endInText [])
  | '"' :: rest => .ok rest
  | '\\' :: rest =>
    match h : passEscape rest with
    | .error f => .error f
    | .ok rest' =>
      have := passEscape_length h
      passText rest'
  | c :: rest =>
    if c.toNat < 32 then .error (.before .controlCharacter (c :: rest)) else passText rest
  termination_by cs.length
  decreasing_by all_goals simp only [List.length_cons]; omega

theorem readTextFrom_length {done cs text rest : List Char}
    (h : readTextFrom done cs = .ok (text, rest)) : rest.length < cs.length := by
  fun_induction readTextFrom done cs with
  | case1 => simp at h
  | case2 => simp only [Except.ok.injEq, Prod.mk.injEq] at h; simp [h.2]
  | case3 => simp at h
  | case4 done rest' c r hr hlen ih =>
    have := ih h
    simp only [List.length_cons]; omega
  | case5 => simp at h
  | case6 done c rest' _ _ _ ih =>
    have := ih h
    simp only [List.length_cons]; omega

theorem readText_length {cs text rest : List Char} (h : readText cs = .ok (text, rest)) :
    rest.length < cs.length :=
  readTextFrom_length h

theorem passText_length {cs rest : List Char} (h : passText cs = .ok rest) :
    rest.length < cs.length := by
  fun_induction passText cs with
  | case1 => simp at h
  | case2 => simp only [Except.ok.injEq] at h; simp [h]
  | case3 => simp at h
  | case4 rest' r hr hlen ih =>
    have := ih h
    simp only [List.length_cons]; omega
  | case5 => simp at h
  | case6 c rest' _ _ _ ih =>
    have := ih h
    simp only [List.length_cons]; omega

/-! ## Writing -/

/-- How one character stands in a text value: quotes, backslashes and controls are escaped. -/
def writeChar (c : Char) : List Char :=
  if c = '"' then ['\\', '"']
  else if c = '\\' then ['\\', '\\']
  else if c = '\x08' then ['\\', 'b']
  else if c = '\t' then ['\\', 't']
  else if c = '\n' then ['\\', 'n']
  else if c = '\x0c' then ['\\', 'f']
  else if c = '\r' then ['\\', 'r']
  else if c.toNat < 32 then
    ['\\', 'u', '0', '0'] ++ [Nat.digitChar (c.toNat / 16), Nat.digitChar (c.toNat % 16)]
  else [c]

def writeText (cs : List Char) : List Char :=
  '"' :: cs.flatMap writeChar ++ ['"']

end TaskCrew.Json
