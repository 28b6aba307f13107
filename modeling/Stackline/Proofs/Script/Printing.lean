import Mathlib
import Stackline.Proofs.Script.Lines
import Stackline.Proofs.Script.Token

/-!
# Printed scripts

How operations are written down, with all freedom of layout, and that reading gives them
back. `Printed` says which sources are a printed form of a list of lines; it knows nothing
of lexemes or phrases.
-/

namespace Stackline.Script

open Stackline.Grammar
open Stackline.Number
open Stackline.Script.Lexeme (isSpace isEnding isWordStart isWordPart scanQuoted? scanToken?
  chars_scanToken?)

/-! ### Operations, written down -/

/-- The word that a line begins with. -/
def Operation.keyword : Operation → String
  | .declare _ _ => "declare"
  | .read _ => "read"
  | .writeText _ => "write"
  | .writeVariable _ => "write"
  | .print => "print"
  | .pushInteger _ => "push"
  | .pushReal _ => "push"
  | .load _ => "load"
  | .arithmetic .add => "add"
  | .arithmetic .subtract => "sub"
  | .arithmetic .multiply => "mul"
  | .arithmetic .divide => "div"
  | .store _ => "store"

/-- How a text stands between quotes. A tab may be written as it is. -/
inductive Escaped : List Char → List Char → Prop where
  | nil : Escaped [] []
  | newline {text body : List Char} (rest : Escaped text body) :
      Escaped ('\n' :: text) ('\\' :: 'n' :: body)
  | quote {text body : List Char} (rest : Escaped text body) :
      Escaped ('"' :: text) ('\\' :: '"' :: body)
  | backslash {text body : List Char} (rest : Escaped text body) :
      Escaped ('\\' :: text) ('\\' :: '\\' :: body)
  | tab {text body : List Char} (rest : Escaped text body) :
      Escaped ('\t' :: text) ('\\' :: 't' :: body)
  | plain {c : Char} {text body : List Char} (notNewline : c ≠ '\n') (notQuote : c ≠ '"')
      (notBackslash : c ≠ '\\') (rest : Escaped text body) : Escaped (c :: text) (c :: body)

/-- The arguments of an operation, as they are written behind its keyword. -/
inductive Operation.Arguments : Operation → List (List Char) → Prop where
  | declare {type name : String} : Arguments (.declare type name) [type.toList, name.toList]
  | read {name : String} : Arguments (.read name) [name.toList]
  | writeText {text : String} {body : List Char} (escaped : Escaped text.toList body) :
      Arguments (.writeText text) ['"' :: body ++ ['"']]
  | writeVariable {name : String} : Arguments (.writeVariable name) [name.toList]
  | print : Arguments .print []
  | pushInteger {text : String} : Arguments (.pushInteger text) [text.toList]
  | pushReal {numeral : Numeral} (real : IsReal numeral) :
      Arguments (.pushReal numeral.constantText) [numeral.chars]
  | load {name : String} : Arguments (.load name) [name.toList]
  | arithmetic {operator : Code.Arithmetic} : Arguments (.arithmetic operator) []
  | store {name : String} : Arguments (.store name) [name.toList]

/-! ### Layout -/

/-- Spaces and tabs, or nothing. -/
def Spaces (text : List Char) : Prop :=
  ∀ c ∈ text, isSpace c

/-- Tokens with spaces or tabs before each. -/
inductive Spread : List (List Char) → List Char → Prop where
  | nil : Spread [] []
  | cons {gap token text : List Char} {tokens : List (List Char)} (wide : gap ≠ [])
      (spaces : Spaces gap) (others : Spread tokens text) :
      Spread (token :: tokens) (gap ++ token ++ text)

/-- The end of a line: spaces, and a comment or none. -/
inductive Trailer : List Char → Prop where
  | plain {spaces : List Char} (blank : Spaces spaces) : Trailer spaces
  | comment {spaces remark : List Char} (blank : Spaces spaces)
      (unbroken : ∀ c ∈ remark, isEnding c = false) : Trailer (spaces ++ '#' :: remark)

/-- A line without its ending: blank, or an operation. -/
inductive PrintedLine : Option Operation → List Char → Prop where
  | blank {trailer : List Char} (ends : Trailer trailer) : PrintedLine none trailer
  | operation {operation : Operation} {arguments : List (List Char)}
      {margin text trailer : List Char} (spaces : Spaces margin)
      (written : operation.Arguments arguments) (spread : Spread arguments text)
      (ends : Trailer trailer) :
      PrintedLine (some operation) (margin ++ operation.keyword.toList ++ text ++ trailer)

/-- Lines, each with a line feed behind it, or with a carriage return and a line feed. -/
inductive Printed : List (Option Operation) → List Char → Prop where
  | nil : Printed [] []
  | feed {line : Option Operation} {lines : List (Option Operation)} {text rest : List Char}
      (first : PrintedLine line text) (others : Printed lines rest) :
      Printed (line :: lines) (text ++ '\n' :: rest)
  | returnFeed {line : Option Operation} {lines : List (Option Operation)}
      {text rest : List Char} (first : PrintedLine line text) (others : Printed lines rest) :
      Printed (line :: lines) (text ++ '\r' :: '\n' :: rest)

/-- The statements of lines, each with the number of its line. -/
def numbered (lines : List (Option Operation)) : List Statement :=
  (lines.zipIdx 1).filterMap fun (line, number) => line.map (Statement.mk number)

/-! ### Tokens stand for themselves -/

/-- A text that is one token from end to end. -/
def Spells (text : List Char) (token : Token) : Prop :=
  scanToken? text = some (token, [])

theorem IsWord.spells {letters : List Char} (isWord : IsWord letters) :
    Spells letters (.word letters) := by
  obtain ⟨opens, continues⟩ := isWord
  rw [Spells, scanToken?, if_pos opens, List.takeWhile_eq_self_iff.2 continues,
    List.dropWhile_eq_nil_iff.2 continues]

theorem scanQuoted?_of_isBody {body : List Char} (isBody : IsBody body) :
    scanQuoted? (body ++ ['"']) = some (body, []) := by
  induction isBody with
  | nil => rfl
  | plain notQuote notEscape notEnding tail inductionHypothesis =>
    simp [scanQuoted?, notEscape, notEnding, inductionHypothesis]
  | escape notEnding tail inductionHypothesis =>
    simp [scanQuoted?, notEnding, inductionHypothesis]

theorem IsBody.spells {body : List Char} (isBody : IsBody body) :
    Spells ('"' :: body ++ ['"']) (.quoted body) := by
  have notStart : isWordStart '"' = false := by decide
  simp [Spells, scanToken?, notStart, scanQuoted?_of_isBody isBody]

theorem spells_number {numeral : Numeral} (wellFormed : numeral.WellFormed) :
    Spells numeral.chars (.number numeral) := by
  have scanned := Numeral.scan?_chars wellFormed
  cases text : numeral.chars with
  | nil =>
    rw [text] at scanned
    cases scanned
  | cons c rest =>
    rw [text] at scanned
    have notStart : isWordStart c = false := by
      rw [Bool.eq_false_iff]
      intro start
      have notMinus : c ≠ '-' := by
        rintro rfl
        cases start
      rw [scan?_eq_none notMinus (not_isDigit_of_isWordStart start)] at scanned
      cases scanned
    have notQuote : c ≠ '"' := by
      rintro rfl
      cases scanned
    simp [Spells, scanToken?, notStart, notQuote, scanned]

/-! ### What is written is what is meant -/

theorem Escaped.unescape_eq {text body : List Char} (escaped : Escaped text body) :
    unescape body = .ok text := by
  induction escaped with
  | nil => rfl
  | plain _ _ notBackslash _ inductionHypothesis =>
    simp [unescape, notBackslash, inductionHypothesis, Except.map]
  | _ _ inductionHypothesis => simp [unescape, unescapeChar?, inductionHypothesis, Except.map]

theorem Escaped.isBody {text body : List Char} (escaped : Escaped text body)
    (noReturn : '\r' ∉ text) : IsBody body := by
  induction escaped with
  | nil => exact .nil
  | plain notNewline notQuote notBackslash _ inductionHypothesis =>
    obtain ⟨notReturn, others⟩ := not_or.1 (mt List.mem_cons.2 noReturn)
    refine .plain notQuote notBackslash ?_ (inductionHypothesis others)
    simp [isEnding, notNewline, Ne.symm notReturn]
  | _ _ inductionHypothesis =>
    exact .escape (by decide) (inductionHypothesis (mt (.tail _) noReturn))

theorem Keyword.named?_name (keyword : Keyword) : Keyword.named? keyword.name = some keyword := by
  cases keyword with
  | arithmetic operator => cases operator <;> decide
  | _ => decide

/-- The operation of a phrase, from the arguments that its tokens stand for. -/
theorem Phrase.operation_eq_ok (keyword : Keyword) {tokens : List Token}
    {arguments : List Argument} {operation : Operation}
    (stand : tokens.mapM Token.argument = .ok arguments)
    (formed : keyword.operation arguments = .ok operation) (position : Position) :
    Phrase.operation ⟨position, keyword.name.toList, tokens⟩ = .ok operation := by
  simp [Phrase.operation_eq, stand, Keyword.named?_name, formed, bind, Except.bind]

/-- Behind a keyword that takes one name. -/
theorem tokens_of_name (keyword : Keyword) {name : String} {operation : Operation}
    (isWord : IsWord name.toList) (formed : keyword.operation [.word name] = .ok operation) :
    ∃ tokens, List.Forall₂ Spells [name.toList] tokens ∧
      ∀ position, Phrase.operation ⟨position, keyword.name.toList, tokens⟩ = .ok operation := by
  refine ⟨_, .cons isWord.spells .nil, Phrase.operation_eq_ok keyword rfl ?_⟩
  rwa [String.ofList_toList]

/-- The tokens that the arguments of an operation are, and what they stand for behind its
keyword. -/
theorem tokens_of_arguments {operation : Operation} {arguments : List (List Char)}
    (permitted : operation.Permitted) (written : operation.Arguments arguments) :
    ∃ tokens, List.Forall₂ Spells arguments tokens ∧
      ∀ position, Phrase.operation ⟨position, operation.keyword.toList, tokens⟩ =
        .ok operation := by
  cases written with
  | declare =>
    obtain ⟨isType, isName⟩ := permitted
    refine ⟨_, .cons isType.spells (.cons isName.spells .nil),
      Phrase.operation_eq_ok .declare rfl ?_⟩
    simp [Keyword.operation]
  | read => exact tokens_of_name .read permitted rfl
  | @writeText text body escaped =>
    have stand : [Token.quoted body].mapM Token.argument = .ok [.text text] := by
      simp [Token.argument_quoted, escaped.unescape_eq, Except.map, bind, Except.bind, pure,
        Except.pure]
    exact ⟨_, .cons (escaped.isBody permitted).spells .nil,
      Phrase.operation_eq_ok .write stand rfl⟩
  | writeVariable => exact tokens_of_name .write permitted rfl
  | print => exact ⟨[], .nil, Phrase.operation_eq_ok .print rfl rfl⟩
  | pushInteger =>
    obtain ⟨numeral, wellFormed, integer, equal⟩ := isInteger_iff.1 permitted
    rw [← equal]
    refine ⟨_, .cons (spells_number wellFormed) .nil, Phrase.operation_eq_ok .push rfl ?_⟩
    refine (Operation.pushed_chars wellFormed).trans ?_
    simp [Operation.ofNumeral, integer, equal]
  | pushReal real =>
    obtain ⟨wellFormed, isReal⟩ := isReal_iff.1 real
    refine ⟨_, .cons (spells_number wellFormed) .nil, Phrase.operation_eq_ok .push rfl ?_⟩
    refine (Operation.pushed_chars wellFormed).trans ?_
    simp [Operation.ofNumeral, isReal]
  | load => exact tokens_of_name .load permitted rfl
  | @arithmetic operator =>
    have same : (Operation.arithmetic operator).keyword = (Keyword.arithmetic operator).name := by
      cases operator <;> rfl
    rw [same]
    exact ⟨[], .nil, Phrase.operation_eq_ok (.arithmetic operator) rfl rfl⟩
  | store => exact tokens_of_name .store permitted rfl

/-! ### Lines are read back -/

/-- Where a space stands, no token goes on. -/
theorem stops_spaces {gap : List Char} (wide : gap ≠ []) (spaces : Spaces gap)
    (rest : List Char) : Stops (gap ++ rest) := by
  obtain ⟨c, tail, rfl⟩ := List.exists_cons_of_ne_nil wide
  rintro _ ⟨⟩
  have space := spaces c (.head _)
  simp only [isSpace, Bool.or_eq_true, decide_eq_true_eq] at space
  rcases space with rfl | rfl <;> decide

theorem Spread.stops {arguments : List (List Char)} {text rest : List Char}
    (spread : Spread arguments text) (stops : Stops rest) : Stops (text ++ rest) := by
  cases spread with
  | nil => exact stops
  | cons wide spaces others =>
    rw [List.append_assoc, List.append_assoc]
    exact stops_spaces wide spaces _

/-- Tokens that are spread over a line are taken one after the other. -/
theorem shape_spread {arguments : List (List Char)} {text : List Char}
    (spread : Spread arguments text) {tokens : List Token}
    (spelled : List.Forall₂ Spells arguments tokens) {rest : List Char} (stops : Stops rest)
    (position : Position) (phrase : Phrase) :
    shape position (some phrase) (text ++ rest) =
      shape (position.advance text)
        (some { phrase with arguments := phrase.arguments ++ tokens }) rest := by
  induction spread generalizing tokens position phrase with
  | nil =>
    cases spelled
    simp
  | @cons gap argument text arguments wide spaces others inductionHypothesis =>
    cases spelled with
    | @cons _ token _ tokens first later =>
      have scanned := scanToken?_append_of_stops (others.stops stops) first
      have chars : argument = token.chars := by simpa using (chars_scanToken? first).1
      rw [List.append_assoc, List.append_assoc, shape_spaces spaces, shape_argument scanned,
        List.nil_append, inductionHypothesis later]
      simp [chars]

theorem Trailer.skipLayout_eq {trailer : List Char} (ends : Trailer trailer) :
    skipLayout trailer = [] := by
  cases ends with
  | plain blank => simp [skipLayout, List.dropWhile_eq_nil_iff.2 blank]
  | @comment spaces remark blank unbroken =>
    have marked : (spaces ++ '#' :: remark).dropWhile isSpace = '#' :: remark := by
      rw [List.dropWhile_append_of_pos blank]
      rfl
    simp only [skipLayout, marked]
    exact List.dropWhile_eq_nil_iff.2 fun c member => by simp [unbroken c member]

theorem Trailer.stops {trailer rest : List Char} (ends : Trailer trailer) (stops : Stops rest) :
    Stops (trailer ++ rest) := by
  cases ends with
  | plain blank =>
    by_cases empty : trailer = []
    · rw [empty]
      exact stops
    · exact stops_spaces empty blank rest
  | @comment spaces remark blank unbroken =>
    rw [List.append_assoc]
    by_cases empty : spaces = []
    · rw [empty]
      rintro _ ⟨⟩
      decide
    · exact stops_spaces empty blank _

/-- A line may have a carriage return before the line feed that ends it. -/
def IsReturn (text : List Char) : Prop :=
  text = [] ∨ text = ['\r']

theorem IsReturn.stops {text : List Char} (isReturn : IsReturn text) : Stops text := by
  rcases isReturn with rfl | rfl
  · exact fun _ head => by cases head
  · exact (breaks_ending (c := '\r') rfl []).stops

/-- The end of a line holds nothing. -/
theorem shape_trailer {trailer text : List Char} (ends : Trailer trailer)
    (isReturn : IsReturn text) (position : Position) (current : Option Phrase) :
    shape position current (trailer ++ text) = .ok current.toList := by
  rcases isReturn with rfl | rfl
  · rw [List.append_nil]
    exact Open.shape_eq (.inl ends.skipLayout_eq) position current
  · obtain ⟨skipped, -, skips⟩ := shape_skip (trailer ++ ['\r'])
    rw [skips, skipLayout_append_ending ends.skipLayout_eq rfl]
    exact Open.shape_eq (.inr rfl) _ current

theorem Operation.spells_keyword (operation : Operation) :
    Spells operation.keyword.toList (.word operation.keyword.toList) := by
  cases operation with
  | arithmetic operator => cases operator <;> rfl
  | _ =>
    simp only [Operation.keyword]
    rfl

/-- A line holds its operation, or nothing. -/
theorem parseChars_printedLine {line : Option Operation} {text ending : List Char}
    (printed : PrintedLine line text) (permitted : ∀ operation ∈ line, operation.Permitted)
    (isReturn : IsReturn ending) :
    parseChars (text ++ ending) = .ok (line.toList.map (Statement.mk 1)) := by
  cases printed with
  | blank ends =>
    have read : phrases (text ++ ending) = .ok [] := shape_trailer ends isReturn .start none
    rw [parseChars_of_read read]
    rfl
  | @operation operation arguments margin text trailer spaces written spread ends =>
    obtain ⟨tokens, spelled, meant⟩ := tokens_of_arguments (permitted operation rfl) written
    have stops := ends.stops isReturn.stops
    have read : phrases (margin ++ operation.keyword.toList ++ text ++ trailer ++ ending) =
        .ok [⟨Position.start.advance margin, operation.keyword.toList, tokens⟩] := by
      have keyword := scanToken?_append_of_stops (spread.stops stops) operation.spells_keyword
      simp only [List.append_assoc] at keyword ⊢
      rw [phrases_eq_shape, shape_spaces spaces, shape_keyword keyword, List.nil_append,
        shape_spread spread spelled stops, shape_trailer ends isReturn]
      rfl
    have first : (Position.start.advance margin).line = 1 := by
      have noFeed : '\n' ∉ margin := fun feed => by cases spaces _ feed
      rw [advance_start, List.count_eq_zero.2 noFeed]
    rw [parseChars_of_read read]
    simp [Phrase.statement, meant, first, bind, Except.bind, pure, Except.pure]

/-- No line ends within a token, since a line ending goes on none. -/
theorem Spells.unbroken {text : List Char} {token : Token} (spelled : Spells text token) :
    '\n' ∉ text := by
  intro feed
  obtain ⟨before, after, rfl⟩ := List.append_of_mem feed
  have scanned := scanToken?_append_of_breaks (breaks_ending (c := '\n') rfl after) before
  rw [Spells, scanned] at spelled
  obtain ⟨⟨found, rest⟩, -, equal⟩ := Option.map_eq_some_iff.1 spelled
  simp at equal

theorem Spaces.unbroken {text : List Char} (spaces : Spaces text) : '\n' ∉ text := by
  intro feed
  cases spaces '\n' feed

theorem Spread.unbroken {arguments : List (List Char)} {text : List Char}
    (spread : Spread arguments text) {tokens : List Token}
    (spelled : List.Forall₂ Spells arguments tokens) : '\n' ∉ text := by
  induction spread generalizing tokens with
  | nil => exact List.not_mem_nil
  | cons wide spaces others inductionHypothesis =>
    cases spelled with
    | cons first later =>
      simp only [List.mem_append, not_or]
      exact ⟨⟨spaces.unbroken, first.unbroken⟩, inductionHypothesis later⟩

theorem Trailer.unbroken {trailer : List Char} (ends : Trailer trailer) : '\n' ∉ trailer := by
  cases ends with
  | plain blank => exact blank.unbroken
  | comment blank unbroken =>
    simp only [List.mem_append, List.mem_cons, not_or]
    refine ⟨blank.unbroken, by decide, fun feed => ?_⟩
    cases unbroken '\n' feed

theorem PrintedLine.unbroken {line : Option Operation} {text : List Char}
    (printed : PrintedLine line text) (permitted : ∀ operation ∈ line, operation.Permitted) :
    '\n' ∉ text := by
  cases printed with
  | blank ends => exact ends.unbroken
  | operation spaces written spread ends =>
    obtain ⟨tokens, spelled, -⟩ := tokens_of_arguments (permitted _ rfl) written
    simp only [List.mem_append, not_or]
    exact ⟨⟨⟨spaces.unbroken, (Operation.spells_keyword _).unbroken⟩,
      spread.unbroken spelled⟩, ends.unbroken⟩

/-- Behind the first line all lines are counted on by one. -/
theorem numbered_cons (line : Option Operation) (lines : List (Option Operation)) :
    numbered (line :: lines) =
      line.toList.map (Statement.mk 1) ++ (numbered lines).map (Statement.below 1) := by
  have later : (lines.zipIdx 2).filterMap (fun (line, number) => line.map (Statement.mk number)) =
      (numbered lines).map (Statement.below 1) := by
    rw [numbered, List.zipIdx_succ, List.filterMap_map, List.map_filterMap]
    congr 1
    funext ⟨operation, number⟩
    cases operation <;> rfl
  rw [numbered, List.zipIdx_cons, ← later]
  cases line <;> rfl

/-- A line is cut off at its line feed, with its carriage return if it has one. -/
theorem parseChars_line_append {line : Option Operation} {lines : List (Option Operation)}
    {text ending rest : List Char} (first : PrintedLine line text) (isReturn : IsReturn ending)
    (permitted : ∀ operation ∈ line, operation.Permitted)
    (others : parseChars rest = .ok (numbered lines)) :
    parseChars ((text ++ ending) ++ '\n' :: rest) = .ok (numbered (line :: lines)) := by
  have noFeed : '\n' ∉ text ++ ending := by
    rw [List.mem_append, not_or]
    refine ⟨first.unbroken permitted, ?_⟩
    rcases isReturn with rfl | rfl <;> decide
  refine parseChars_newline_append_eq_ok_iff.2
    ⟨_, _, parseChars_printedLine first permitted isReturn, others, ?_⟩
  rw [List.count_eq_zero.2 noFeed, numbered_cons]

theorem permitted_cons {line : Option Operation} {lines : List (Option Operation)}
    (permitted : ∀ operation, some operation ∈ line :: lines → operation.Permitted) :
    (∀ operation ∈ line, operation.Permitted) ∧
      ∀ operation, some operation ∈ lines → operation.Permitted := by
  refine ⟨?_, fun operation member => permitted operation (.tail _ member)⟩
  rintro operation ⟨⟩
  exact permitted operation (.head _)

/-- A printed script can be read, and gives back its operations with their lines. -/
theorem parseChars_printed {lines : List (Option Operation)} {source : List Char}
    (printed : Printed lines source)
    (permitted : ∀ operation, some operation ∈ lines → operation.Permitted) :
    parseChars source = .ok (numbered lines) := by
  induction printed with
  | nil =>
    have read : phrases [] = .ok [] := shape_nil .start none
    rw [parseChars_of_read read]
    rfl
  | feed first _ inductionHypothesis =>
    obtain ⟨here, later⟩ := permitted_cons permitted
    simpa using parseChars_line_append first (.inl rfl) here (inductionHypothesis later)
  | returnFeed first _ inductionHypothesis =>
    obtain ⟨here, later⟩ := permitted_cons permitted
    simpa using parseChars_line_append first (.inr rfl) here (inductionHypothesis later)

/-! ### Every script can be printed -/

theorem exists_escaped (text : List Char) : ∃ body, Escaped text body := by
  induction text with
  | nil => exact ⟨[], .nil⟩
  | cons c rest inductionHypothesis =>
    obtain ⟨body, escaped⟩ := inductionHypothesis
    by_cases newline : c = '\n'
    · subst newline
      exact ⟨_, .newline escaped⟩
    by_cases quote : c = '"'
    · subst quote
      exact ⟨_, .quote escaped⟩
    by_cases backslash : c = '\\'
    · subst backslash
      exact ⟨_, .backslash escaped⟩
    · exact ⟨_, .plain newline quote backslash escaped⟩

theorem exists_spread (arguments : List (List Char)) : ∃ text, Spread arguments text := by
  induction arguments with
  | nil => exact ⟨[], .nil⟩
  | cons argument rest inductionHypothesis =>
    obtain ⟨text, spread⟩ := inductionHypothesis
    exact ⟨_, .cons (List.cons_ne_nil ' ' []) (by simp [Spaces, isSpace]) spread⟩

theorem Operation.Permitted.exists_arguments {operation : Operation}
    (permitted : operation.Permitted) : ∃ arguments, operation.Arguments arguments := by
  cases operation with
  | writeText text =>
    obtain ⟨body, escaped⟩ := exists_escaped text.toList
    exact ⟨_, .writeText escaped⟩
  | pushReal text =>
    obtain ⟨numeral, real, rfl⟩ := permitted
    exact ⟨_, .pushReal real⟩
  | declare => exact ⟨_, .declare⟩
  | read => exact ⟨_, .read⟩
  | writeVariable => exact ⟨_, .writeVariable⟩
  | print => exact ⟨_, .print⟩
  | pushInteger => exact ⟨_, .pushInteger⟩
  | load => exact ⟨_, .load⟩
  | arithmetic => exact ⟨_, .arithmetic⟩
  | store => exact ⟨_, .store⟩

theorem exists_printedLine {line : Option Operation}
    (permitted : ∀ operation ∈ line, operation.Permitted) : ∃ text, PrintedLine line text := by
  have empty : Spaces [] := fun _ member => by cases member
  cases line with
  | none => exact ⟨[], .blank (.plain empty)⟩
  | some operation =>
    obtain ⟨arguments, written⟩ := (permitted operation rfl).exists_arguments
    obtain ⟨text, spread⟩ := exists_spread arguments
    exact ⟨_, .operation empty written spread (.plain empty)⟩

theorem exists_printed {lines : List (Option Operation)}
    (permitted : ∀ operation, some operation ∈ lines → operation.Permitted) :
    ∃ source, Printed lines source := by
  induction lines with
  | nil => exact ⟨[], .nil⟩
  | cons line lines inductionHypothesis =>
    obtain ⟨here, later⟩ := permitted_cons permitted
    obtain ⟨text, first⟩ := exists_printedLine here
    obtain ⟨rest, others⟩ := inductionHypothesis later
    exact ⟨_, .feed first others⟩

/-- Printing a script and reading it gives it back. Every list of lines with permitted
operations has a printed form, and whatever the layout of that form is, reading it gives
exactly the operations of the lines in order, each with the number of its line. Conversely
all operations that are read off any source are permitted. -/
theorem printed_script_reads_back :
    (∀ (lines : List (Option Operation)) (source : String),
      (∀ operation, some operation ∈ lines → operation.Permitted) →
      Printed lines source.toList → parse source = .ok (numbered lines)) ∧
    (∀ lines : List (Option Operation),
      (∀ operation, some operation ∈ lines → operation.Permitted) →
      ∃ source : String, Printed lines source.toList) ∧
    ∀ (source : String) (statements : List Statement), parse source = .ok statements →
      ∀ statement ∈ statements, statement.operation.Permitted := by
  refine ⟨fun lines source permitted printed => parseChars_printed printed permitted, ?_, ?_⟩
  · intro lines permitted
    obtain ⟨source, printed⟩ := exists_printed permitted
    exact ⟨String.ofList source, by rwa [String.toList_ofList]⟩
  · intro source statements parsed statement member
    exact permitted_of_parse parsed statement member

/-- A text with a comment mark, a quote, a backslash and both spellings of a tab, before a
comment with a quote and a carriage return; then a blank line and a real number. -/
theorem printed_script_reads_back_quoted :
    parse "\twrite \"#\t\\\"\\\\\\t\" # \"\r\n\npush\t-1e3\n" =
      .ok [⟨1, .writeText "#\t\"\\\t"⟩, ⟨3, .pushReal "-1.0e3"⟩] := by
  have tab : Spaces ['\t'] := by simp [Spaces, isSpace]
  have space : Spaces [' '] := by simp [Spaces, isSpace]
  have empty : Spaces [] := by simp [Spaces]
  have escaped : Escaped "#\t\"\\\t".toList "#\t\\\"\\\\\\t".toList :=
    .plain (by decide) (by decide) (by decide) (.plain (by decide) (by decide) (by decide)
      (.quote (.backslash (.tab .nil))))
  have real : IsReal ⟨true, ['1'], none, some ⟨'e', none, ['3']⟩⟩ := by
    refine isReal_iff.2 ⟨⟨⟨by simp, by simp [Char.isDigit]⟩, by simp, ?_⟩, rfl⟩
    rintro _ ⟨⟩
    exact ⟨.inl rfl, by simp, by simp, by simp [Char.isDigit]⟩
  have constant : Numeral.constantText ⟨true, ['1'], none, some ⟨'e', none, ['3']⟩⟩ = "-1.0e3" := by
    decide +kernel
  have written : Operation.Arguments (.pushReal "-1.0e3") ["-1e3".toList] :=
    constant ▸ .pushReal real
  have first : PrintedLine (some (.writeText "#\t\"\\\t")) _ :=
    .operation tab (.writeText escaped) (.cons (List.cons_ne_nil _ _) space .nil)
      (.comment space (by simp [isEnding] : ∀ c ∈ [' ', '"'], isEnding c = false))
  have last : PrintedLine (some (.pushReal "-1.0e3")) _ :=
    .operation empty written (.cons (List.cons_ne_nil _ _) tab .nil) (.plain empty)
  have printed : Printed [some (.writeText "#\t\"\\\t"), none, some (.pushReal "-1.0e3")]
      "\twrite \"#\t\\\"\\\\\\t\" # \"\r\n\npush\t-1e3\n".toList :=
    .returnFeed first (.feed (.blank (.plain empty)) (.feed last .nil))
  refine printed_script_reads_back.1 _ _ (fun operation member => ?_) printed
  simp only [List.mem_cons, Option.some.injEq, reduceCtorEq, List.not_mem_nil, or_false,
    false_or] at member
  rcases member with rfl | rfl
  · exact (by decide : '\r' ∉ "#\t\"\\\t".toList)
  · exact ⟨_, real, constant.symm⟩

end Stackline.Script
