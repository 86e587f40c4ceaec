import A3sBox.Lib.Str

/-
  Compose variable interpolation of one scalar (`compose::interpolation`).

  Model. A scalar is its list of characters and the environment any function from
  names to values, which covers every `HashMap`. `interpolate_scalar` scans the text:
  a character other than `$` is copied, `$$` writes one `$`, `${EXPR}` expands the
  expression up to its matching `}`, `$NAME` the longest name, and a `$` before
  anything else stays. An expression `NAME`, `NAME-WORD`, `NAME:-WORD` and so on
  expands its word as a scalar of its own, one level deeper, and more than
  `MAX_INTERPOLATION_DEPTH` levels fail. The scan keeps the byte offset of the text
  it is at, which the errors report. The walk over a YAML document
  (`interpolate_compose_yaml`) is left out.

  Proved:
  * `interpolate_escape_roundtrip`: interpolating a text whose `$`s are doubled gives
    the text back, and a text without `$` is its own interpolation, whatever the
    environment.
-/

namespace A3sBox.Compose

open A3sBox.Lib.Str

/-- `MAX_INTERPOLATION_DEPTH`. -/
def maxInterpolationDepth : Nat := 32

/-- `ComposeInterpolationError`, without the YAML error of the document walk. -/
inductive ComposeInterpolationError where
  | invalidExpression (offset : Nat) (message : String)
  | requiredVariable (name : String) (message : String)
deriving DecidableEq

/-- The environment of an interpolation: `environment.get(name)`. -/
abbrev Environment := String → Option String

/-- The UTF-8 length of a text, the unit of its offsets. -/
def byteLength (s : List Char) : Nat := (s.map Char.utf8Size).sum

/-- `scan_variable_name`: an underscore or ASCII letter, then underscores and ASCII
    letters and digits. -/
def scanVariableName : List Char → List Char
  | [] => []
  | c :: rest =>
    if c = '_' || c.isAlpha then c :: rest.takeWhile fun c => c = '_' || c.isAlphanum else []

/-- The scan of `find_closing_brace` after an opening `${`: a nested `${` opens, a `}`
    closes; the text before the matching `}` and the text after it. -/
def closingBrace : Nat → List Char → List Char → Option (List Char × List Char)
  | _, _, [] => none
  | depth, acc, '$' :: '{' :: rest => closingBrace (depth + 1) (acc ++ ['$', '{']) rest
  | depth, acc, '}' :: rest =>
    if depth - 1 = 0 then some (acc, rest) else closingBrace (depth - 1) (acc ++ ['}']) rest
  | depth, acc, c :: rest => closingBrace depth (acc ++ [c]) rest

/-- The operators of `${NAME<op>WORD}`. -/
inductive Operator where
  | colonDash
  | colonPlus
  | colonQuestion
  | dash
  | plus
  | question
deriving DecidableEq

def Operator.text : Operator → List Char
  | .colonDash => [':', '-']
  | .colonPlus => [':', '+']
  | .colonQuestion => [':', '?']
  | .dash => ['-']
  | .plus => ['+']
  | .question => ['?']

/-- The operator an expression's remainder starts with, tried in the source's order, and
    the word after it. -/
def findOperator (remainder : List Char) : Option (Operator × List Char) :=
  [Operator.colonDash, .colonPlus, .colonQuestion, .dash, .plus, .question].findSome?
    fun operator => (stripPrefix operator.text remainder).map fun word => (operator, word)

theorem closingBrace_length {depth : Nat} {acc s expression after : List Char}
    (h : closingBrace depth acc s = some (expression, after)) :
    expression.length + after.length + 1 = acc.length + s.length := by
  induction depth, acc, s using closingBrace.induct with
  | case1 => cases h
  | case2 depth acc rest ih =>
    rw [closingBrace] at h
    have := ih h
    simp at this ⊢
    omega
  | case3 depth acc rest hzero =>
    rw [closingBrace, if_pos hzero] at h
    cases h
    simp only [List.length_cons]
    omega
  | case4 depth acc rest hzero ih =>
    rw [closingBrace, if_neg hzero] at h
    have := ih h
    simp at this ⊢
    omega
  | case5 depth acc c rest hbrace hclose ih =>
    rw [closingBrace] at h
    · have := ih h
      simp at this ⊢
      omega
    · exact hbrace
    · exact hclose

mutual

/-- `interpolate_scalar`. -/
def interpolateScalar (environment : Environment) (depth : Nat) (input : List Char) :
    Except ComposeInterpolationError (List Char) :=
  if h : depth > maxInterpolationDepth then
    .error (.invalidExpression 0 s!"nesting exceeds {maxInterpolationDepth} levels")
  else scanScalar environment depth (Nat.le_of_not_gt h) 0 [] input
termination_by (maxInterpolationDepth + 1 - depth, input.length + 1)

/-- The loop of `interpolate_scalar` at byte `offset`, with the output so far. -/
def scanScalar (environment : Environment) (depth : Nat) (hdepth : depth ≤ maxInterpolationDepth)
    (offset : Nat) (output : List Char) : List Char →
    Except ComposeInterpolationError (List Char)
  | [] => .ok output
  | '$' :: '$' :: rest =>
    scanScalar environment depth hdepth (offset + 2) (output ++ ['$']) rest
  | '$' :: '{' :: rest =>
    match _hclosing : closingBrace 1 [] rest with
    | none =>
      .error (.invalidExpression offset "unterminated `$\x7b...\x7d`")
    | some (expression, after) => do
      let value ← expandExpression environment depth hdepth expression offset
      scanScalar environment depth hdepth (offset + 2 + byteLength expression + 1)
        (output ++ value) after
  | '$' :: rest =>
    let name := scanVariableName rest
    if name.isEmpty then scanScalar environment depth hdepth (offset + 1) (output ++ ['$']) rest
    else
      let value := ((environment (String.ofList name)).map String.toList).getD []
      scanScalar environment depth hdepth (offset + 1 + byteLength name) (output ++ value)
        (rest.drop name.length)
  | c :: rest => scanScalar environment depth hdepth (offset + c.utf8Size) (output ++ [c]) rest
termination_by s => (maxInterpolationDepth + 1 - depth, s.length)
decreasing_by
  all_goals try simp only [List.length_cons]
  -- each branch moves past at least one character, and an expression lies inside it
  · exact Prod.Lex.right _ (by omega)
  · have := closingBrace_length ‹closingBrace 1 [] _ = some _›
    exact Prod.Lex.right _ (by simp at this; omega)
  · have := closingBrace_length ‹closingBrace 1 [] _ = some _›
    exact Prod.Lex.right _ (by simp at this; omega)
  · exact Prod.Lex.right _ (by omega)
  · exact Prod.Lex.right _ (by simp)
  · exact Prod.Lex.right _ (by omega)

/-- `expand_expression`: the expression of a `${...}` that starts at byte `offset`. -/
def expandExpression (environment : Environment) (depth : Nat)
    (hdepth : depth ≤ maxInterpolationDepth) (expression : List Char) (offset : Nat) :
    Except ComposeInterpolationError (List Char) :=
  let name := scanVariableName expression
  if name.isEmpty then .error (.invalidExpression offset "variable name is missing")
  else
    let remainder := expression.drop name.length
    let value := (environment (String.ofList name)).map String.toList
    let isSet := value.isSome
    let isNonempty := value.any fun value => !value.isEmpty
    if remainder.isEmpty then .ok (value.getD [])
    else
      match findOperator remainder with
      | none =>
        .error (.invalidExpression offset
          ("unsupported operator in `$\x7b" ++ String.ofList expression ++ "\x7d`"))
      | some (operator, word) =>
        match operator with
        | .dash =>
          if !isSet then interpolateScalar environment (depth + 1) word else .ok (value.getD [])
        | .colonDash =>
          if !isNonempty then interpolateScalar environment (depth + 1) word
          else .ok (value.getD [])
        | .plus => if isSet then interpolateScalar environment (depth + 1) word else .ok []
        | .colonPlus =>
          if isNonempty then interpolateScalar environment (depth + 1) word else .ok []
        | .question =>
          if !isSet then requiredVariable environment depth hdepth name word
          else .ok (value.getD [])
        | .colonQuestion =>
          if !isNonempty then requiredVariable environment depth hdepth name word
          else .ok (value.getD [])
termination_by (maxInterpolationDepth + 1 - depth, expression.length + 1)
decreasing_by
  all_goals first
    | exact Prod.Lex.left _ _ (by omega)
    | exact Prod.Lex.right _ (by omega)

/-- `required_variable`: the error of a `?` operator, with the expanded word as its
    message. -/
def requiredVariable (environment : Environment) (depth : Nat)
    (_hdepth : depth ≤ maxInterpolationDepth) (name word : List Char) :
    Except ComposeInterpolationError (List Char) := do
  let message ←
    if word.isEmpty then pure "variable is required".toList
    else interpolateScalar environment (depth + 1) word
  throw (.requiredVariable (String.ofList name) (String.ofList message))
termination_by (maxInterpolationDepth + 1 - depth, 0)
decreasing_by exact Prod.Lex.left _ _ (by omega)

end

/-- `interpolate_compose_scalar`. -/
def interpolateComposeScalar (input : String) (environment : Environment) :
    Except ComposeInterpolationError String :=
  (interpolateScalar environment 0 input.toList).map String.ofList

/-! ## Escaped dollars -/

section Scan

variable {environment : Environment} {depth : Nat} {hdepth : depth ≤ maxInterpolationDepth}
  {offset : Nat} {output : List Char}

theorem scanScalar_nil : scanScalar environment depth hdepth offset output [] = .ok output := by
  rw [scanScalar]

theorem scanScalar_escape (rest : List Char) :
    scanScalar environment depth hdepth offset output ('$' :: '$' :: rest) =
      scanScalar environment depth hdepth (offset + 2) (output ++ ['$']) rest := by
  rw [scanScalar]

theorem scanScalar_cons_of_ne {c : Char} (hc : c ≠ '$') (rest : List Char) :
    scanScalar environment depth hdepth offset output (c :: rest) =
      scanScalar environment depth hdepth (offset + c.utf8Size) (output ++ [c]) rest := by
  -- the equation of the last pattern asks that none of the `$` patterns match
  rw [scanScalar] <;> intros <;> simp_all

/-- The text with every `$` written `$$`: `s.replace('$', "$$")`. -/
def escapeDollars (s : List Char) : List Char :=
  s.flatMap fun c => if c = '$' then ['$', '$'] else [c]

theorem escapeDollars_dollar (rest : List Char) :
    escapeDollars ('$' :: rest) = '$' :: '$' :: escapeDollars rest := by
  simp [escapeDollars]

theorem escapeDollars_cons_of_ne {c : Char} (hc : c ≠ '$') (rest : List Char) :
    escapeDollars (c :: rest) = c :: escapeDollars rest := by
  simp [escapeDollars, hc]

theorem escapeDollars_of_not_mem {t : List Char} (h : '$' ∉ t) : escapeDollars t = t := by
  induction t with
  | nil => rfl
  | cons c rest ih =>
    rw [List.mem_cons, not_or] at h
    rw [escapeDollars_cons_of_ne (Ne.symm h.1), ih h.2]

/-- The scan reads an escaped text back, one character or one `$$` at a time. -/
theorem scanScalar_escapeDollars (s : List Char) :
    ∀ offset output, scanScalar environment depth hdepth offset output (escapeDollars s) =
      .ok (output ++ s) := by
  induction s with
  | nil =>
    intro offset output
    simp [escapeDollars, scanScalar_nil]
  | cons c rest ih =>
    intro offset output
    by_cases hc : c = '$'
    · subst hc
      rw [escapeDollars_dollar, scanScalar_escape, ih]
      simp
    · rw [escapeDollars_cons_of_ne hc, scanScalar_cons_of_ne hc, ih]
      simp

end Scan

theorem interpolateScalar_zero (environment : Environment) (input : List Char) :
    interpolateScalar environment 0 input =
      scanScalar environment 0 (Nat.zero_le _) 0 [] input := by
  rw [interpolateScalar, dif_neg (by decide)]

theorem interpolate_escape_roundtrip (environment : Environment) :
    (∀ s : String,
      interpolateComposeScalar (String.ofList (escapeDollars s.toList)) environment = .ok s) ∧
    ∀ t : String, '$' ∉ t.toList → interpolateComposeScalar t environment = .ok t := by
  have hroundtrip : ∀ s : String,
      interpolateComposeScalar (String.ofList (escapeDollars s.toList)) environment = .ok s := by
    intro s
    rw [interpolateComposeScalar, String.toList_ofList, interpolateScalar_zero,
      scanScalar_escapeDollars]
    simp [Except.map]
  refine ⟨hroundtrip, fun t ht => ?_⟩
  -- a text without `$` is its own escape
  have := hroundtrip t
  rwa [escapeDollars_of_not_mem ht, String.ofList_toList] at this

theorem interpolate_plain_word : '$' ∉ "a b".toList ∧
    interpolateComposeScalar "a b" (fun _ => none) = .ok "a b" :=
  ⟨by decide, (interpolate_escape_roundtrip (fun _ => none)).2 "a b" (by decide)⟩

end A3sBox.Compose
