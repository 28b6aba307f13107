import Stackline.Grammar.Tree

/-!
# Parsing expressions

Expressions that are matched against the head of an input: choices are tried in order,
repetitions take as much as they can, and neither is taken back. `Matches` relates an
expression and an input to what comes of it, a match or a failure, and by
`Matches.deterministic` nothing else can come of it. In the bodies of some rules a
grammar skips layout between the parts of a sequence and between repetitions; `spread`
writes these skips out.
-/

namespace Stackline.Grammar

/-- An expression over the names of rules. -/
inductive Expr (ρ : Type) where
  | one (accepts : Char → Bool)
  | literal (text : List Char)
  | startOfInput
  | endOfInput
  | rule (name : ρ)
  | sequence (first second : Expr ρ)
  | choice (first second : Expr ρ)
  | optional (body : Expr ρ)
  | repeated (body : Expr ρ)
  | repeatedOnce (body : Expr ρ)
  | forbidden (body : Expr ρ)

/-- How a rule appears in trees. -/
inductive Mode where
  /-- With the rules inside. -/
  | normal
  /-- Not at all; the rules inside take its place. -/
  | silent
  /-- Without the rules inside. -/
  | atomic
  deriving DecidableEq, Repr

/-- The trees of a rule that covers a text. -/
def Mode.trees {ρ : Type} (name : ρ) (text : List Char) (children : List (Tree ρ)) :
    Mode → List (Tree ρ)
  | .normal => [.node name text children]
  | .silent => children
  | .atomic => [.node name text []]

/-- Write out the skips between the parts of sequences and between repetitions. -/
def Expr.spread {ρ : Type} (expression skip : Expr ρ) : Expr ρ :=
  match expression with
  | .sequence first second =>
    .sequence (first.spread skip) (.sequence skip (second.spread skip))
  | .repeated body =>
    .optional (.sequence (body.spread skip) (.repeated (.sequence skip (body.spread skip))))
  | .repeatedOnce body =>
    .sequence (body.spread skip) (.sequence skip
      (.optional (.sequence (body.spread skip) (.repeated (.sequence skip (body.spread skip))))))
  | .choice first second => .choice (first.spread skip) (second.spread skip)
  | .optional body => .optional (body.spread skip)
  | .forbidden body => .forbidden (body.spread skip)
  | other => other

/-- The definitions of rules, how they appear, and in which bodies what is skipped. -/
structure Rulebook (ρ : Type) where
  definition : ρ → Expr ρ
  mode : ρ → Mode
  skip : Expr ρ
  skips : ρ → Bool

/-- The body of a rule, with its skips. -/
def Rulebook.body {ρ : Type} (grammar : Rulebook ρ) (name : ρ) : Expr ρ :=
  if grammar.skips name then (grammar.definition name).spread grammar.skip
  else grammar.definition name

/-- What comes of an expression at an input: the trees of a match and the input behind
it, or nothing. -/
inductive Matches {ρ : Type} (grammar : Rulebook ρ) (source : List Char) :
    Expr ρ → List Char → Option (List (Tree ρ) × List Char) → Prop where
  | one {accepts c rest} (accepted : accepts c) :
      Matches grammar source (.one accepts) (c :: rest) (some ([], rest))
  | oneFails {accepts input} (refused : ∀ c ∈ input.head?, accepts c = false) :
      Matches grammar source (.one accepts) input none
  | literal {text input rest} (split : input = text ++ rest) :
      Matches grammar source (.literal text) input (some ([], rest))
  | literalFails {text input} (absent : ¬text <+: input) :
      Matches grammar source (.literal text) input none
  | startOfInput : Matches grammar source .startOfInput source (some ([], source))
  | startFails {input} (inside : input ≠ source) :
      Matches grammar source .startOfInput input none
  | endOfInput : Matches grammar source .endOfInput [] (some ([], []))
  | endFails {c rest} : Matches grammar source .endOfInput (c :: rest) none
  | rule {name input text rest children} (split : input = text ++ rest)
      (body : Matches grammar source (grammar.body name) input (some (children, rest))) :
      Matches grammar source (.rule name) input
        (some ((grammar.mode name).trees name text children, rest))
  | ruleFails {name input} (body : Matches grammar source (grammar.body name) input none) :
      Matches grammar source (.rule name) input none
  | sequence {first second input middle rest trees others}
      (left : Matches grammar source first input (some (trees, middle)))
      (right : Matches grammar source second middle (some (others, rest))) :
      Matches grammar source (.sequence first second) input (some (trees ++ others, rest))
  | sequenceFails {first second input} (left : Matches grammar source first input none) :
      Matches grammar source (.sequence first second) input none
  | sequenceFailsLater {first second input middle trees}
      (left : Matches grammar source first input (some (trees, middle)))
      (right : Matches grammar source second middle none) :
      Matches grammar source (.sequence first second) input none
  | choice {first second input result}
      (left : Matches grammar source first input (some result)) :
      Matches grammar source (.choice first second) input (some result)
  | choiceOther {first second input result} (left : Matches grammar source first input none)
      (right : Matches grammar source second input result) :
      Matches grammar source (.choice first second) input result
  | optional {body input result} (inner : Matches grammar source body input (some result)) :
      Matches grammar source (.optional body) input (some result)
  | optionalNone {body input} (inner : Matches grammar source body input none) :
      Matches grammar source (.optional body) input (some ([], input))
  | repeated {body input middle rest trees others}
      (item : Matches grammar source body input (some (trees, middle)))
      (more : Matches grammar source (.repeated body) middle (some (others, rest))) :
      Matches grammar source (.repeated body) input (some (trees ++ others, rest))
  | repeatedNone {body input} (item : Matches grammar source body input none) :
      Matches grammar source (.repeated body) input (some ([], input))
  | repeatedOnce {body input result}
      (all : Matches grammar source (.sequence body (.repeated body)) input result) :
      Matches grammar source (.repeatedOnce body) input result
  | forbidden {body input} (absent : Matches grammar source body input none) :
      Matches grammar source (.forbidden body) input (some ([], input))
  | forbiddenFails {body input result}
      (present : Matches grammar source body input (some result)) :
      Matches grammar source (.forbidden body) input none

variable {ρ : Type} {grammar : Rulebook ρ} {source : List Char}

/-- An expression comes to one thing at an input. -/
theorem Matches.deterministic {expression : Expr ρ} {input : List Char}
    {left right : Option (List (Tree ρ) × List Char)}
    (first : Matches grammar source expression input left)
    (second : Matches grammar source expression input right) : left = right := by
  induction first generalizing right with
  | one accepted =>
    cases second with
    | one _ => rfl
    | oneFails refused => simp [accepted] at refused
  | oneFails refused =>
    cases second with
    | one accepted => simp [accepted] at refused
    | oneFails _ => rfl
  | literal split =>
    cases second with
    | literal again =>
      rw [split, List.append_cancel_left_eq] at again
      rw [again]
    | literalFails absent => exact absurd ⟨_, split.symm⟩ absent
  | literalFails absent =>
    cases second with
    | literal split => exact absurd ⟨_, split.symm⟩ absent
    | literalFails _ => rfl
  | startOfInput =>
    cases second with
    | startOfInput => rfl
    | startFails inside => exact absurd rfl inside
  | startFails inside =>
    cases second with
    | startOfInput => exact absurd rfl inside
    | startFails _ => rfl
  | endOfInput =>
    cases second
    rfl
  | endFails =>
    cases second
    rfl
  | rule split _ inductionHypothesis =>
    cases second with
    | rule again body =>
      cases inductionHypothesis body
      rw [split, List.append_cancel_right_eq] at again
      rw [again]
    | ruleFails body => cases inductionHypothesis body
  | ruleFails _ inductionHypothesis =>
    cases second with
    | rule _ body => cases inductionHypothesis body
    | ruleFails _ => rfl
  | sequence _ _ leftHypothesis rightHypothesis =>
    cases second with
    | sequence left right =>
      cases leftHypothesis left
      cases rightHypothesis right
      rfl
    | sequenceFails left => cases leftHypothesis left
    | sequenceFailsLater left right =>
      cases leftHypothesis left
      cases rightHypothesis right
  | sequenceFails _ leftHypothesis =>
    cases second with
    | sequence left _ => cases leftHypothesis left
    | sequenceFails _ => rfl
    | sequenceFailsLater left _ => cases leftHypothesis left
  | sequenceFailsLater _ _ leftHypothesis rightHypothesis =>
    cases second with
    | sequence left right =>
      cases leftHypothesis left
      cases rightHypothesis right
    | sequenceFails _ => rfl
    | sequenceFailsLater _ _ => rfl
  | choice _ leftHypothesis =>
    cases second with
    | choice left => exact leftHypothesis left
    | choiceOther left _ => cases leftHypothesis left
  | choiceOther _ _ leftHypothesis rightHypothesis =>
    cases second with
    | choice left => cases leftHypothesis left
    | choiceOther _ right => exact rightHypothesis right
  | optional _ inductionHypothesis =>
    cases second with
    | optional inner => exact inductionHypothesis inner
    | optionalNone inner => cases inductionHypothesis inner
  | optionalNone _ inductionHypothesis =>
    cases second with
    | optional inner => cases inductionHypothesis inner
    | optionalNone _ => rfl
  | repeated _ _ itemHypothesis moreHypothesis =>
    cases second with
    | repeated item more =>
      cases itemHypothesis item
      cases moreHypothesis more
      rfl
    | repeatedNone item => cases itemHypothesis item
  | repeatedNone _ itemHypothesis =>
    cases second with
    | repeated item _ => cases itemHypothesis item
    | repeatedNone _ => rfl
  | repeatedOnce _ inductionHypothesis =>
    cases second with
    | repeatedOnce all => exact inductionHypothesis all
  | forbidden _ inductionHypothesis =>
    cases second with
    | forbidden _ => rfl
    | forbiddenFails present => cases inductionHypothesis present
  | forbiddenFails _ inductionHypothesis =>
    cases second with
    | forbidden absent => cases inductionHypothesis absent
    | forbiddenFails _ => rfl

/-- A match leaves the end of its input. -/
theorem Matches.suffix {expression : Expr ρ} {input rest : List Char} {trees : List (Tree ρ)}
    (found : Matches grammar source expression input (some (trees, rest))) : rest <:+ input := by
  generalize equal : some (trees, rest) = result at found
  induction found generalizing trees rest with
  | one _ =>
    cases equal
    exact List.suffix_cons _ _
  | literal split =>
    cases equal
    exact ⟨_, split.symm⟩
  | startOfInput | endOfInput | optionalNone _ | repeatedNone _ | forbidden _ =>
    cases equal
    exact List.suffix_rfl
  | rule split _ _ =>
    cases equal
    exact ⟨_, split.symm⟩
  | sequence _ _ leftHypothesis rightHypothesis =>
    cases equal
    exact (rightHypothesis rfl).trans (leftHypothesis rfl)
  | repeated _ _ itemHypothesis moreHypothesis =>
    cases equal
    exact (moreHypothesis rfl).trans (itemHypothesis rfl)
  | choice _ inductionHypothesis | optional _ inductionHypothesis
  | repeatedOnce _ inductionHypothesis => exact inductionHypothesis equal
  | choiceOther _ _ _ inductionHypothesis => exact inductionHypothesis equal
  | oneFails | literalFails | startFails | endFails | ruleFails | sequenceFails
  | sequenceFailsLater | forbiddenFails => cases equal

/-! ### Character classes -/

/-- What comes of a character class. -/
def classResult (accepts : Char → Bool) : List Char → Option (List (Tree ρ) × List Char)
  | [] => none
  | c :: rest => if accepts c then some ([], rest) else none

/-- An expression that takes one character of a class. -/
def IsClass (grammar : Rulebook ρ) (source : List Char) (expression : Expr ρ)
    (accepts : Char → Bool) : Prop :=
  ∀ input, Matches grammar source expression input (classResult accepts input)

theorem isClass_one (accepts : Char → Bool) : IsClass grammar source (.one accepts) accepts := by
  intro input
  cases input with
  | nil => exact .oneFails (by simp)
  | cons c rest =>
    by_cases accepted : accepts c
    · simpa [classResult, accepted] using Matches.one accepted
    · simpa [classResult, accepted] using Matches.oneFails (by simpa using accepted)

theorem isClass_literal (mark : Char) :
    IsClass grammar source (.literal [mark]) (· = mark) := by
  intro input
  cases input with
  | nil => exact .literalFails (by simp)
  | cons c rest =>
    by_cases same : c = mark
    · subst same
      have found : Matches grammar source (.literal [c]) (c :: rest) (some ([], rest)) :=
        .literal rfl
      simpa [classResult] using found
    · simpa [classResult, same] using Matches.literalFails (by simpa using Ne.symm same)

theorem IsClass.choice {first second : Expr ρ} {accepts others : Char → Bool}
    (left : IsClass grammar source first accepts) (right : IsClass grammar source second others) :
    IsClass grammar source (.choice first second) fun c => accepts c || others c := by
  intro input
  have leftResult := left input
  have rightResult := right input
  cases input with
  | nil => exact .choiceOther leftResult rightResult
  | cons c rest =>
    by_cases accepted : accepts c
    · simp only [classResult, accepted, if_true] at leftResult
      simpa [classResult, accepted] using leftResult.choice
    · simp only [classResult, accepted] at leftResult
      simpa [classResult, accepted] using leftResult.choiceOther rightResult

/-- A repeated class takes all characters of the class. -/
theorem IsClass.repeated {expression : Expr ρ} {accepts : Char → Bool}
    (isClass : IsClass grammar source expression accepts) (input : List Char) :
    Matches grammar source (.repeated expression) input
      (some ([], input.dropWhile accepts)) := by
  induction input with
  | nil => exact .repeatedNone (isClass [])
  | cons c rest inductionHypothesis =>
    have item := isClass (c :: rest)
    by_cases accepted : accepts c
    · simp only [classResult, accepted, if_true] at item
      simpa [accepted] using item.repeated inductionHypothesis
    · simp only [classResult, accepted] at item
      simpa [accepted] using item.repeatedNone

/-- An expression that has a match where a character of a class stands, and only there. -/
def StartsWith (grammar : Rulebook ρ) (source : List Char) (expression : Expr ρ)
    (accepts : Char → Bool) : Prop :=
  ∀ input, ∃ result, Matches grammar source expression input result ∧
    result.isSome = input.head?.any accepts

theorem IsClass.startsWith {expression : Expr ρ} {accepts : Char → Bool}
    (isClass : IsClass grammar source expression accepts) :
    StartsWith grammar source expression accepts := by
  intro input
  refine ⟨_, isClass input, ?_⟩
  cases input with
  | nil => rfl
  | cons c rest => by_cases accepted : accepts c <;> simp [classResult, accepted]

theorem StartsWith.choice {first second : Expr ρ} {accepts others : Char → Bool}
    (left : StartsWith grammar source first accepts)
    (right : StartsWith grammar source second others) :
    StartsWith grammar source (.choice first second) fun c => accepts c || others c := by
  intro input
  obtain ⟨result, leftMatches, leftSome⟩ := left input
  obtain ⟨other, rightMatches, rightSome⟩ := right input
  cases result with
  | none =>
    refine ⟨other, leftMatches.choiceOther rightMatches, ?_⟩
    cases input with
    | nil => simpa using rightSome
    | cons c rest => simp_all
  | some found =>
    refine ⟨some found, leftMatches.choice, ?_⟩
    cases input with
    | nil => simp at leftSome
    | cons c rest => simp_all

/-- Any character but those of a class is a class. -/
theorem StartsWith.except {expression : Expr ρ} {accepts : Char → Bool}
    (starts : StartsWith grammar source expression accepts) :
    IsClass grammar source (.sequence (.forbidden expression) (.one fun _ => true))
      fun c => !accepts c := by
  intro input
  obtain ⟨result, found, isSome⟩ := starts input
  cases input with
  | nil =>
    cases result with
    | none => exact .sequenceFailsLater found.forbidden (.oneFails (by simp))
    | some found => simp at isSome
  | cons c rest =>
    simp only [List.head?_cons, Option.any_some] at isSome
    simp only [classResult, ← isSome]
    cases result with
    | none => exact found.forbidden.sequence (.one rfl)
    | some _ => exact found.forbiddenFails.sequenceFails

end Stackline.Grammar
