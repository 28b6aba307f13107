import Mathlib
import Stackline.Proofs.Script.Passing
import Stackline.Proofs.Script.Tree

/-!
# Where a script fails, and why

Reading a script fails for one of two reasons. Either the source leaves the shape of a
script, and the place is where passing it piece by piece gets stuck. Or a statement is
faulty behind statements that are not, and the place is that of its keyword. `Reported`
says which error goes with which source, in terms of the grammar alone, and
`parseChars_eq_error_iff` that reading reports these errors and no others.
-/

namespace Stackline.Script

open Stackline.Grammar

/-- The place behind a stretch of text at the start of a source. Its line is one more than
the line feeds in that text, and its column one more than the characters behind the last. -/
def Position.behind (passed : List Char) : Position :=
  ⟨passed.count '\n' + 1, (passed.reverse.takeWhile (· ≠ '\n')).length + 1⟩

/-- What is expected behind a stretch of text, on a line without or with its keyword. -/
def Expectation.behind (keyword : Bool) (passed : List Char) : Expectation :=
  if keyword then .argument else if passed = [] then .script else .keyword

/-- The error that is reported of a source. -/
inductive Reported (source : List Char) : ParseError → Prop where
  /-- The grammar does not match, and passing the source gets stuck. -/
  | misshapen {passed unread : List Char} {keyword : Bool}
      (refused : Matches scripts source (.rule .script) source none)
      (passes : Munches source false source passed keyword unread)
      (stuck : Stuck source keyword unread) :
      Reported source ⟨.behind passed, .expected (.behind keyword passed)⟩
  /-- The grammar matches, and the text before a keyword too. The statements of that text
  are without fault, and the statement of the keyword is not. -/
  | statement {tree before : Grammar.Tree Rule} {passed unread keyword rest : List Char}
      {arguments : List (Rule × List Char)} {later : List (List (Rule × List Char))}
      {problem : Problem}
      (accepted : Matches scripts source (.rule .script) source (some ([tree], [])))
      (passes : Munches source false source passed false unread)
      (opens : Munch source false (.token .ident) unread keyword rest)
      (complete : Matches scripts passed (.rule .script) passed (some ([before], [])))
      (next : tree.statements = before.statements ++ ((.ident, keyword) :: arguments) :: later)
      (sound : ∀ labels ∈ before.statements, ∀ other, ¬Faulty labels other)
      (faulty : Faulty ((.ident, keyword) :: arguments) problem) :
      Reported source ⟨.behind passed, problem⟩

/-! ### Places -/

theorem advance_eq_behind (passed : List Char) : Position.start.advance passed = .behind passed :=
  advance_start passed

/-- Only the start of a source is the first place. -/
theorem behind_eq_start_iff {passed : List Char} :
    Position.behind passed = .start ↔ passed = [] := by
  constructor
  · intro first
    obtain ⟨line, column⟩ := Position.mk.inj first
    have unbroken : '\n' ∉ passed := List.count_eq_zero.1 (by omega)
    have whole : passed.reverse.takeWhile (· ≠ '\n') = passed.reverse := by
      rw [List.takeWhile_eq_self_iff]
      intro c member
      have other : c ≠ '\n' := by
        rintro rfl
        exact unbroken (List.mem_reverse.1 member)
      simpa using other
    rw [whole, List.length_reverse] at column
    exact List.eq_nil_of_length_eq_zero (by omega)
  · rintro rfl
    rfl

theorem refusal_of_advance (passed : List Char) (current : Option Phrase) :
    Refusal.of (Position.start.advance passed) current =
      ⟨.behind passed, .behind current.isSome passed⟩ := by
  simp only [Refusal.of, Expectation.behind, advance_eq_behind, behind_eq_start_iff]

section Places

variable {source passed unread : List Char}

/-- A source is refused where passing it gets stuck. -/
theorem phrases_of_stuck {keyword : Bool}
    (passes : Munches source false source passed keyword unread)
    (stuck : Stuck source keyword unread) :
    phrases source = .error ⟨.behind passed, .behind keyword passed⟩ := by
  obtain ⟨done, next, rfl, reads⟩ := passes.shape_eq none rfl .start
  have whole := reads unread List.prefix_rfl
  rw [← passes.split, stuck.shape_eq, refusal_of_advance] at whole
  exact whole

/-- A phrase stands behind the phrases of the text before its keyword. -/
theorem phrases_of_keyword {keyword rest : List Char} {found : List Phrase}
    (passes : Munches source false source passed false unread)
    (opens : Munch source false (.token .ident) unread keyword rest)
    (read : phrases source = .ok found) :
    ∃ earlier arguments later, phrases passed = .ok earlier ∧
      found = earlier ++ ⟨.behind passed, keyword, arguments⟩ :: later := by
  obtain ⟨done, next, closed, reads⟩ := passes.shape_eq none rfl .start
  obtain rfl : next = none := by simpa using closed
  obtain ⟨_, _, turn, readsOn⟩ := @Munch.shape_eq source none _ _ _ _ opens (.behind passed)
  cases turn with
  | keyword =>
    have before := reads [] List.nil_prefix
    rw [List.append_nil, shape_nil] at before
    have whole := reads unread List.prefix_rfl
    rw [← passes.split, ← phrases_eq_shape, read, advance_eq_behind, opens.split,
      readsOn rest List.prefix_rfl, map_nil_append] at whole
    cases others : shape ((Position.behind passed).advance keyword)
        (some ⟨.behind passed, keyword, []⟩) rest with
    | error refusal => simp [others, Except.map] at whole
    | ok behind =>
      obtain ⟨arguments, later, rfl⟩ := shape_open others
      simp only [others, Except.map, Except.ok.injEq] at whole
      exact ⟨done, arguments, later, by simpa [Except.map, phrases_eq_shape] using before, whole⟩

end Places

/-! ### Errors -/

section Errors

variable {source : List Char}

/-- Phrases that are read are the statements of a match. -/
theorem exists_tree {found : List Phrase} (read : phrases source = .ok found) :
    ∃ tree, Matches scripts source (.rule .script) source (some ([tree], [])) ∧
      tree.statements = found.map phraseLabels := by
  have outcome := phrases_outcome source
  rw [read] at outcome
  obtain ⟨tree, accepted, parts⟩ := outcome
  exact ⟨tree, accepted, statements_eq_of_parts parts⟩

/-- The statements of a match are read as phrases. -/
theorem exists_phrases_of_match {tree : Grammar.Tree Rule}
    (accepted : Matches scripts source (.rule .script) source (some ([tree], []))) :
    ∃ found, phrases source = .ok found ∧ tree.statements = found.map phraseLabels := by
  obtain ⟨found, read, parts⟩ := exists_phrases accepted
  exact ⟨found, read, statements_eq_of_parts (parts tree (.head _))⟩

/-- Reading reports the error of a source. -/
theorem parseChars_eq_error_iff {error : ParseError} :
    parseChars source = .error error ↔ Reported source error := by
  constructor
  · intro fails
    cases read : phrases source with
    | error refusal =>
      have refused := phrases_outcome source
      rw [read] at refused
      obtain ⟨passed, ⟨keyword, unread, passes, stuck⟩, -⟩ :=
        @refused_stopsAfter source _ _ _ _ read
      rw [parseChars_of_refused (phrases_of_stuck passes stuck)] at fails
      cases fails
      exact .misshapen refused passes stuck
    | ok found =>
      rw [parseChars_of_read read] at fails
      obtain ⟨earlier, phrase, later, statements, rfl, stated, failing⟩ :=
        mapM_eq_error_iff.1 fails
      have wellFormed := wellFormed_phrases read phrase (by simp)
      obtain ⟨problem, faulty, rfl⟩ := (Phrase.statement_eq_error_iff wellFormed).1 failing
      obtain ⟨passed, unread, rest, passes, opens, place, readBefore⟩ :=
        @keyword_stands source _ _ _ _ _ _ read (Nat.zero_le _)
      obtain ⟨tree, accepted, labels⟩ := exists_tree read
      obtain ⟨before, complete, labelsBefore⟩ := exists_tree readBefore
      have next : tree.statements =
          before.statements ++ phraseLabels phrase :: later.map phraseLabels := by
        rw [labels, labelsBefore, List.map_append, List.map_cons]
      have sound := (exists_statements_iff (wellFormed_phrases readBefore)).1 ⟨statements, stated⟩
      rw [← labelsBefore] at sound
      rw [place, advance_eq_behind]
      exact .statement accepted passes opens complete next sound faulty
  · intro reported
    cases reported with
    | misshapen _ passes stuck => exact parseChars_of_refused (phrases_of_stuck passes stuck)
    | @statement _ _ _ _ _ _ _ _ problem accepted passes opens complete next sound faulty =>
      obtain ⟨found, read, labels⟩ := exists_phrases_of_match accepted
      obtain ⟨earlier, tokens, later, readBefore, rfl⟩ := phrases_of_keyword passes opens read
      obtain ⟨again, readAgain, labelsBefore⟩ := exists_phrases_of_match complete
      cases readBefore.symm.trans readAgain
      rw [labelsBefore, ← exists_statements_iff (wellFormed_phrases readBefore)] at sound
      obtain ⟨statements, stated⟩ := sound
      rw [labels, labelsBefore, List.map_append, List.map_cons, List.append_cancel_left_eq,
        List.cons.injEq] at next
      rw [← next.1] at faulty
      rw [parseChars_of_read read, mapM_eq_error_iff]
      refine ⟨earlier, _, later, statements, rfl, stated, ?_⟩
      have wellFormed := wellFormed_phrases read _ (List.mem_append_right _ (.head _))
      exact (Phrase.statement_eq_error_iff wellFormed).2 ⟨problem, faulty, rfl⟩

end Errors

/-! ### Checks that cannot fail -/

/-- The messages of checks that the grammar makes superfluous: that a statement has a
keyword, that its arguments are tokens, that no escape is cut off, and that a number can be
read. -/
inductive Superfluous : String → Prop where
  | missingOperation : Superfluous "expected an operation"
  | unexpected (rule : String) : Superfluous ("unexpected " ++ rule)
  | dangling : Superfluous "dangling `\\`"
  | invalidReal (literal : String) : Superfluous ("invalid real literal" ++ literal)

theorem take_toList_append {head : String} (long : 3 ≤ head.toList.length) (tail : String) :
    (head ++ tail).toList.take 3 = head.toList.take 3 := by
  rw [String.toList_append, List.take_append_of_le_length long]

/-- How superfluous messages open. -/
theorem Superfluous.opening {message : String} (superfluous : Superfluous message) :
    message = "expected an operation" ∨
      message.toList.take 3 ∈ ["une".toList, "dan".toList, "inv".toList] := by
  cases superfluous with
  | missingOperation => exact .inl rfl
  | unexpected rule =>
    right
    rw [take_toList_append (by decide)]
    decide
  | dangling => decide
  | invalidReal literal =>
    right
    rw [take_toList_append (by decide)]
    decide

/-- How the messages of faults open. -/
theorem Faulty.opening {labels : List (Rule × List Char)} {problem : Problem}
    (faulty : Faulty labels problem) :
    problem.message.toList.take 3 ∈ ["unk".toList, "usa".toList] := by
  cases faulty <;> unfold Problem.message <;> dsimp only <;> rw [String.append_assoc]
  · rw [take_toList_append (by decide)]
    decide
  · rw [take_toList_append (by decide)]
    decide
  · rw [String.append_assoc, take_toList_append (by decide)]
    decide

theorem Reported.not_superfluous {source : List Char} {error : ParseError}
    (reported : Reported source error) : ¬Superfluous error.problem.message := by
  intro superfluous
  have opening := superfluous.opening
  cases reported with
  | @misshapen passed _ keyword =>
    have others (expectation : Expectation) :
        ¬(expectation.message = "expected an operation" ∨
          expectation.message.toList.take 3 ∈ ["une".toList, "dan".toList, "inv".toList]) := by
      cases expectation <;> decide
    exact others _ opening
  | statement _ _ _ _ _ _ faulty =>
    have other := faulty.opening
    rcases opening with equal | among
    · rw [equal] at other
      revert other
      decide
    · simp only [List.mem_cons, List.not_mem_nil, or_false] at among other
      rcases other with other | other <;> rw [other] at among <;> revert among <;> decide

/-- Reading a script fails at real places and for real reasons. It reports where the source
leaves the grammar, or else the keyword and the fault of the first faulty statement. It
never reports a missing keyword, a stray argument, a cut off escape or an invalid number,
since it reads the statements that the grammar matches, and none of these has one. -/
theorem parse_fails_at_first_fault (source : String) :
    (∀ error, parse source = .error error ↔ Reported source.toList error) ∧
    (∀ error, parse source = .error error → ¬Superfluous error.problem.message) ∧
    ∀ trees rest,
      Matches scripts source.toList (.rule .script) source.toList (some (trees, rest)) →
      ∀ tree ∈ trees,
        (tree.children.filterMap Tree.parts?).mapM Operation.ofTrees =
          ((parse source).map (List.map Statement.operation)).mapError ParseError.problem ∧
        ∀ child ∈ tree.children, child.label.1 = .statement → IsStatement child := by
  refine ⟨fun error => parseChars_eq_error_iff, ?_, ?_⟩
  · intro error fails
    exact (parseChars_eq_error_iff.1 fails).not_superfluous
  · intro trees rest found tree member
    refine ⟨mapM_ofTrees_of_match found tree member, fun child inside isStatement => ?_⟩
    obtain ⟨text, children, rfl, body⟩ := found.body
    cases List.mem_singleton.1 member
    exact isStatement_of_matched isStatement (body.matched child inside)

/-- The third backslash of a text opens an unknown escape. It is reported before the argument
that is one too many, at the keyword. -/
theorem parse_fails_at_first_fault_backslashes :
    parse "print\r\n\twrite \"\\\\\\q\" 1" = .error ⟨⟨2, 2⟩, .unknownEscape 'q'⟩ ∧
    Reported "print\r\n\twrite \"\\\\\\q\" 1".toList ⟨⟨2, 2⟩, .unknownEscape 'q'⟩ ∧
    ¬Superfluous (Problem.unknownEscape 'q').message ∧
    ∃ tree, Matches scripts "print\r\n\twrite \"\\\\\\q\" 1".toList (.rule .script)
        "print\r\n\twrite \"\\\\\\q\" 1".toList (some ([tree], [])) ∧
      ∃ child ∈ tree.children, child.label.1 = .statement ∧ child.children.map Tree.label =
        [(.ident, "write".toList), (.string, "\"\\\\\\q\"".toList), (.number, "1".toList)] ∧
        IsStatement child := by
  have fails : parse "print\r\n\twrite \"\\\\\\q\" 1" = .error ⟨⟨2, 2⟩, .unknownEscape 'q'⟩ := by
    cbv
  have read : phrases "print\r\n\twrite \"\\\\\\q\" 1".toList =
      .ok [⟨⟨1, 1⟩, "print".toList, []⟩,
        ⟨⟨2, 2⟩, "write".toList,
          [.quoted "\\\\\\q".toList, .number ⟨false, ['1'], none, none⟩]⟩] := by
    cbv
  obtain ⟨reported, unmentioned, readable⟩ :=
    parse_fails_at_first_fault "print\r\n\twrite \"\\\\\\q\" 1"
  obtain ⟨tree, accepted, labels⟩ := exists_tree read
  have member : [(.ident, "write".toList), (.string, "\"\\\\\\q\"".toList), (.number, "1".toList)] ∈
      tree.statements := by
    rw [labels]
    decide
  obtain ⟨child, inside, isStatement, tokens⟩ := exists_child member
  refine ⟨fails, (reported _).1 fails, unmentioned _ fails, tree, accepted, child, inside,
    isStatement, tokens, ?_⟩
  exact (readable [tree] [] accepted tree (.head _)).2 child inside isStatement

end Stackline.Script
