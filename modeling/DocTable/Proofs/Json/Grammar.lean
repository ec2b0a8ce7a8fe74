import DocTable.Json.Reader

/-!
# The grammar of JSON texts

A JSON text is a sequence of tokens that derives a value. The tokens keep what is written: blanks,
the body of a string with its escapes, the digits of a number. No bound is set to nesting and none
to numbers, and an escape may name half of a pair of surrogates; these are matters of reading.
-/

namespace DocTable.Json

inductive Token where
  | blank (c : Char)
  | mark (c : Char)
  | word (letters : List Char)
  | number (text : List Char)
  /-- What stands between the quotes. -/
  | string (body : List Char)

def Token.text : Token → List Char
  | blank c => [c]
  | mark c => [c]
  | word letters => letters
  | number text => text
  | string body => '"' :: body ++ ['"']

def spell (tokens : List Token) : List Char := tokens.flatMap Token.text

/-! ## Tokens -/

def IsDigits (s : List Char) : Prop := s ≠ [] ∧ ∀ c ∈ s, Digits.isDigit c = true

/-- Digits without a zero in front of others. -/
def IsWhole (s : List Char) : Prop := s = ['0'] ∨ IsDigits s ∧ s.head? ≠ some '0'

def IsFraction (s : List Char) : Prop := s = [] ∨ ∃ digits, s = '.' :: digits ∧ IsDigits digits

def IsExponent (s : List Char) : Prop :=
  s = [] ∨ ∃ e sign digits, s = e :: sign ++ digits ∧ (e = 'e' ∨ e = 'E') ∧
    (sign = [] ∨ sign = ['+'] ∨ sign = ['-']) ∧ IsDigits digits

def IsNumber (s : List Char) : Prop :=
  ∃ sign whole fraction exponent, s = sign ++ whole ++ fraction ++ exponent ∧
    (sign = [] ∨ sign = ['-']) ∧ IsWhole whole ∧ IsFraction fraction ∧ IsExponent exponent

def IsHexDigit (c : Char) : Prop := (Hex.digitValue? c).isSome = true

def escapeLetters : List Char := ['"', '\\', '/', 'b', 'f', 'n', 'r', 't']

inductive IsBody : List Char → Prop
  | nil : IsBody []
  | plain {c : Char} {s : List Char} : c ≠ '"' → c ≠ '\\' → 0x20 ≤ c.toNat → IsBody s →
      IsBody (c :: s)
  | escape {c : Char} {s : List Char} : c ∈ escapeLetters → IsBody s → IsBody ('\\' :: c :: s)
  | unit {a b c d : Char} {s : List Char} : IsHexDigit a → IsHexDigit b → IsHexDigit c →
      IsHexDigit d → IsBody s → IsBody ('\\' :: 'u' :: a :: b :: c :: d :: s)

def marks : List Char := ['[', ']', '{', '}', ',', ':']

def words : List (List Char) :=
  [['n', 'u', 'l', 'l'], ['t', 'r', 'u', 'e'], ['f', 'a', 'l', 's', 'e']]

def Token.IsLexeme : Token → Prop
  | blank c => Reader.isSpace c = true
  | mark c => c ∈ marks
  | word letters => letters ∈ words
  | number text => IsNumber text
  | string body => IsBody body

/-! ## Phrases -/

def Blanks (tokens : List Token) : Prop := ∀ t ∈ tokens, ∃ c, t = .blank c ∧ Reader.isSpace c = true

inductive Phrase where
  | value
  /-- One value or more, with commas between them. -/
  | items
  | entries

inductive Derives : Phrase → List Token → Prop
  | word {letters : List Char} : letters ∈ words → Derives .value [.word letters]
  | number {text : List Char} : IsNumber text → Derives .value [.number text]
  | string {body : List Char} : IsBody body → Derives .value [.string body]
  | emptyArray {gap : List Token} : Blanks gap → Derives .value (.mark '[' :: gap ++ [.mark ']'])
  | array {ts : List Token} : Derives .items ts → Derives .value (.mark '[' :: ts ++ [.mark ']'])
  | emptyObject {gap : List Token} : Blanks gap →
      Derives .value (.mark '{' :: gap ++ [.mark '}'])
  | object {ts : List Token} : Derives .entries ts →
      Derives .value (.mark '{' :: ts ++ [.mark '}'])
  | spaced {phrase : Phrase} {front ts back : List Token} : Blanks front → Derives phrase ts →
      Blanks back → Derives phrase (front ++ ts ++ back)
  | item {ts : List Token} : Derives .value ts → Derives .items ts
  | moreItems {ts us : List Token} : Derives .items ts → Derives .items us →
      Derives .items (ts ++ .mark ',' :: us)
  | entry {gap ts : List Token} {name : List Char} : IsBody name → Blanks gap →
      Derives .value ts → Derives .entries (.string name :: gap ++ .mark ':' :: ts)
  | moreEntries {ts us : List Token} : Derives .entries ts → Derives .entries us →
      Derives .entries (ts ++ .mark ',' :: us)

def IsText (s : List Char) : Prop := ∃ tokens, Derives .value tokens ∧ spell tokens = s

/-! ## Lemmas -/

variable {tokens more gap : List Token} {s : List Char} {c : Char}

@[simp] theorem spell_nil : spell [] = [] := rfl

@[simp] theorem spell_cons {t : Token} : spell (t :: tokens) = t.text ++ spell tokens := rfl

@[simp] theorem spell_append : spell (tokens ++ more) = spell tokens ++ spell more :=
  List.flatMap_append

theorem IsBody.append {a b : List Char} (ha : IsBody a) (hb : IsBody b) : IsBody (a ++ b) := by
  induction ha with
  | nil => exact hb
  | plain quote backslash visible _ ih => exact .plain quote backslash visible ih
  | escape letter _ ih => exact .escape letter ih
  | unit a b c d _ ih => exact .unit a b c d ih

theorem IsHexDigit.not_special (h : IsHexDigit c) : c ≠ '"' ∧ c ≠ '\\' := by
  constructor <;> rintro rfl <;> revert h <;> unfold IsHexDigit <;> decide

theorem IsNumber.mem (h : IsNumber s) (mem : c ∈ s) :
    Digits.isDigit c = true ∨ c ∈ ['-', '+', '.', 'e', 'E'] := by
  obtain ⟨sign, whole, fraction, exponent, rfl, sign_ok, whole_ok, fraction_ok, exponent_ok⟩ := h
  simp only [List.mem_append] at mem
  rcases mem with ((mem | mem) | mem) | mem
  · rcases sign_ok with rfl | rfl
    · cases mem
    · exact .inr (by simp_all)
  · rcases whole_ok with rfl | ⟨run, -⟩
    · rw [List.mem_singleton.1 mem]
      exact .inl rfl
    · exact .inl (run.2 c mem)
  · rcases fraction_ok with rfl | ⟨digits, rfl, run⟩
    · cases mem
    · rcases List.mem_cons.1 mem with rfl | mem
      · exact .inr (by decide)
      · exact .inl (run.2 c mem)
  · rcases exponent_ok with rfl | ⟨e, sign, digits, rfl, letter, sign_ok, run⟩
    · cases mem
    · have front : ∀ c ∈ e :: sign, c ∈ ['-', '+', '.', 'e', 'E'] := by
        rcases letter with rfl | rfl <;> rcases sign_ok with rfl | rfl | rfl <;> simp
      rcases List.mem_append.1 mem with mem | mem
      · exact .inr (front c mem)
      · exact .inl (run.2 c mem)

theorem Blanks.isLexeme (h : Blanks tokens) : ∀ t ∈ tokens, t.IsLexeme := by
  intro t mem
  obtain ⟨c, rfl, space⟩ := h t mem
  exact space

theorem Derives.isLexeme {phrase : Phrase} (h : Derives phrase tokens) :
    ∀ t ∈ tokens, t.IsLexeme := by
  have bracket {c c' : Char} {ts : List Token} (opens : c ∈ marks) (closes : c' ∈ marks)
      (inside : ∀ t ∈ ts, t.IsLexeme) : ∀ t ∈ Token.mark c :: ts ++ [.mark c'], t.IsLexeme := by
    simp only [List.cons_append, List.mem_cons, List.mem_append, List.not_mem_nil, or_false]
    rintro t (rfl | mem | rfl)
    · exact opens
    · exact inside t mem
    · exact closes
  have comma {ts us : List Token} (left : ∀ t ∈ ts, t.IsLexeme) (right : ∀ t ∈ us, t.IsLexeme) :
      ∀ t ∈ ts ++ .mark ',' :: us, t.IsLexeme := by
    simp only [List.mem_append, List.mem_cons]
    rintro t (mem | rfl | mem)
    · exact left t mem
    · exact (by decide : ',' ∈ marks)
    · exact right t mem
  induction h with
  | word known => exact fun t mem => List.mem_singleton.1 mem ▸ known
  | number written => exact fun t mem => List.mem_singleton.1 mem ▸ written
  | string body => exact fun t mem => List.mem_singleton.1 mem ▸ body
  | emptyArray gap => exact bracket (by decide) (by decide) gap.isLexeme
  | array _ ih => exact bracket (by decide) (by decide) ih
  | emptyObject gap => exact bracket (by decide) (by decide) gap.isLexeme
  | object _ ih => exact bracket (by decide) (by decide) ih
  | spaced front _ back ih =>
    simp only [List.mem_append]
    rintro t ((mem | mem) | mem)
    · exact front.isLexeme t mem
    · exact ih t mem
    · exact back.isLexeme t mem
  | item _ ih => exact ih
  | moreItems _ _ left right => exact comma left right
  | entry name gap _ ih =>
    simp only [List.cons_append, List.mem_cons, List.mem_append]
    rintro t (rfl | mem | rfl | mem)
    · exact name
    · exact gap.isLexeme t mem
    · exact (by decide : ':' ∈ marks)
    · exact ih t mem
  | moreEntries _ _ left right => exact comma left right

/-! ## Lists without their brackets -/

theorem IsNumber.ne_nil (h : IsNumber s) : s ≠ [] := by
  obtain ⟨sign, whole, fraction, exponent, rfl, -, whole_ok, -⟩ := h
  have some : whole ≠ [] := by
    rcases whole_ok with rfl | ⟨run, -⟩
    · exact List.cons_ne_nil _ _
    · exact run.1
  simp [some]

theorem Token.IsLexeme.text_ne_nil {t : Token} (h : t.IsLexeme) : t.text ≠ [] := by
  cases t with
  | blank c => exact List.cons_ne_nil _ _
  | mark c => exact List.cons_ne_nil _ _
  | word letters =>
    have known : letters ∈ words := h
    rintro (rfl : letters = [])
    exact absurd known (by decide)
  | number text => exact IsNumber.ne_nil h
  | string body => exact List.cons_ne_nil _ _

/-- A character of no blank, word or number is a mark, or stands in a string. -/
theorem Token.IsLexeme.eq_mark_of_mem {t : Token} (h : t.IsLexeme)
    (space : Reader.isSpace c = false) (letter : ∀ letters ∈ words, c ∉ letters)
    (digit : ¬ (Digits.isDigit c = true ∨ c ∈ ['-', '+', '.', 'e', 'E'])) (mem : c ∈ t.text) :
    t = .mark c ∨ ∃ body, t = .string body := by
  cases t with
  | blank d =>
    have blank : Reader.isSpace d = true := h
    rw [← List.mem_singleton.1 mem, space] at blank
    cases blank
  | mark d => exact .inl (by rw [List.mem_singleton.1 mem])
  | word letters => exact absurd mem (letter letters h)
  | number text => exact absurd (IsNumber.mem h mem) digit
  | string body => exact .inr ⟨body, rfl⟩

theorem exists_spell_of_cons (lexemes : ∀ t ∈ tokens, t.IsLexeme)
    (text : spell tokens = '[' :: s) : ∃ more, tokens = .mark '[' :: more ∧ spell more = s := by
  cases tokens with
  | nil => cases text
  | cons t more =>
    have lexeme := lexemes t (List.mem_cons_self ..)
    obtain ⟨first, others, split⟩ := List.exists_cons_of_ne_nil lexeme.text_ne_nil
    rw [spell_cons, split] at text
    obtain ⟨rfl, rest⟩ := List.cons.inj text
    have mem : '[' ∈ t.text := split ▸ List.mem_cons_self ..
    rcases lexeme.eq_mark_of_mem (by decide) (by decide) (by decide) mem with rfl | ⟨body, rfl⟩
    · obtain ⟨-, rfl⟩ := List.cons.inj split
      exact ⟨more, rfl, rest⟩
    · cases split

theorem exists_spell_of_concat (lexemes : ∀ t ∈ tokens, t.IsLexeme)
    (text : spell tokens = s ++ [']']) : ∃ more, tokens = more ++ [.mark ']'] ∧ spell more = s := by
  rcases List.eq_nil_or_concat tokens with rfl | ⟨more, t, rfl⟩
  · simp at text
  · rw [List.concat_eq_append] at lexemes text ⊢
    have lexeme := lexemes t (by simp)
    rcases List.eq_nil_or_concat t.text with none | ⟨others, last, split⟩
    · exact absurd none lexeme.text_ne_nil
    · rw [List.concat_eq_append] at split
      rw [spell_append, spell_cons, spell_nil, List.append_nil, split, ← List.append_assoc] at text
      obtain ⟨rest, same⟩ := List.append_inj' text rfl
      obtain rfl := List.singleton_inj.1 same
      have mem : ']' ∈ t.text := by simp [split]
      rcases lexeme.eq_mark_of_mem (by decide) (by decide) (by decide) mem with rfl | ⟨body, rfl⟩
      · have none : others = [] := by simpa [Token.text] using split
        exact ⟨more, rfl, by simpa [none] using rest⟩
      · rw [Token.text] at split
        obtain ⟨-, quote⟩ := List.append_inj' split rfl
        simp at quote

/-- A list between the brackets of an array is a sequence of tokens, too. -/
theorem IsText.exists_lexemes (h : IsText ('[' :: s ++ [']'])) :
    ∃ tokens, (∀ t ∈ tokens, t.IsLexeme) ∧ spell tokens = s := by
  obtain ⟨tokens, derives, text⟩ := h
  have lexemes := derives.isLexeme
  obtain ⟨more, rfl, behind⟩ := exists_spell_of_cons lexemes text
  have lexemes' : ∀ t ∈ more, t.IsLexeme := fun t mem => lexemes t (List.mem_cons_of_mem _ mem)
  obtain ⟨inner, rfl, between⟩ := exists_spell_of_concat lexemes' behind
  exact ⟨inner, fun t mem => lexemes' t (List.mem_append_left _ mem), between⟩

end DocTable.Json
