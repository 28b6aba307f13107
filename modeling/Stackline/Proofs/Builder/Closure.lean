import Mathlib.Data.List.Forall2
import Mathlib.Data.List.Nodup
import Stackline.Proofs.Builder.Run

/-!
# Modules are closed

A module defines the texts and declares the functions that its calls mention, each once
and in the order of first use, whatever was asked of the builder and whether it could be
done. The account of what was called is kept beside the builder: it comes from the
requests and the variables and operands they meet, and knows nothing of the pool.
-/

namespace Stackline

open Stackline.Code

/-! ### Requests -/

/-- Something that can be asked of a builder: a command, or to write a variable. -/
inductive Request where
  | single (command : Command)
  | writeVariable (name : String)
  deriving DecidableEq, Repr

/-- A call of an external function with a format. -/
structure Call where
  external : External
  format : String
  deriving DecidableEq, Repr

namespace Command

/-- The call that a command makes, if it succeeds. Nothing is printed from an empty
stack. -/
def call? (builder : Builder) : Command → Option Call
  | .read name => (builder.slot? name).map fun slot => ⟨.scanf, slot.kind.pattern⟩
  | .write text => some ⟨.printf, text⟩
  | .print => builder.stack.head?.map fun operand => ⟨.printf, operand.kind.printed.pattern⟩
  | _ => none

/-- The function that a command has to do with, even if it does not call it. -/
def external? : Command → Option External
  | .read _ => some .scanf
  | .write _ => some .printf
  | .print => some .printf
  | _ => none

end Command

namespace Request

/-- The commands that a request stands for. -/
def commands : Request → List Command
  | .single command => [command]
  | .writeVariable name => Compile.commands (.writeVariable name)

/-- The call that a request makes, if it succeeds. -/
def call? (builder : Builder) : Request → Option Call
  | .single command => command.call? builder
  | .writeVariable name =>
    (builder.slot? name).map fun slot => ⟨.printf, slot.kind.printed.pattern⟩

/-- The function that a request has to do with. -/
def external? : Request → Option External
  | .single command => command.external?
  | .writeVariable _ => some .printf

/-- What comes of a request. -/
def submit (tracing : Tracing) (request : Request) (builder : Builder) : Performance :=
  Command.performAll tracing request.commands builder

/-- The state after all requests, those that fail included. -/
def submitAll (tracing : Tracing) : List Request → Builder → Builder
  | [], builder => builder
  | request :: rest, builder => submitAll tracing rest (request.submit tracing builder).builder

/-- The requests that succeed. -/
def succeeded (tracing : Tracing) : List Request → Builder → List Request
  | [], _ => []
  | request :: rest, builder =>
    let result := request.submit tracing builder
    (if result.failure = none then [request] else []) ++ succeeded tracing rest result.builder

/-- The calls that the requests make. -/
def calls (tracing : Tracing) : List Request → Builder → List Call
  | [], _ => []
  | request :: rest, builder =>
    (request.call? builder).toList ++
      calls tracing rest (request.submit tracing builder).builder

end Request

/-! ### The account -/

namespace Builder

/-- The lines that are calls. -/
def callLines (builder : Builder) : List (Line Instruction) :=
  builder.listing.lines.filter fun line => line.content matches .call _ _ _

/-- A line makes a call: it calls the function, and its format is the pooled text. -/
inductive Makes (texts : List String) : Line Instruction → Call → Prop where
  | intro {id : Register} {external : External} {format : String} {pooled : Pooled}
      {argument : Option CallArgument} (names : pooled.Names texts format) :
      Makes texts (.value id (.call external pooled argument)) ⟨external, format⟩

/-- A builder whose pool, calls and required functions are those of the account. -/
structure Accounts (calls : List Call) (demands : List External) (builder : Builder) : Prop where
  indexed : builder.pool.Indexed
  texts : builder.pool.texts = (calls.map (·.format)).eraseDups
  lines : List.Forall₂ (Makes builder.pool.texts) builder.callLines calls
  required : builder.externals.required = demands.eraseDups
  covered : ∀ call ∈ calls, call.external ∈ demands

variable {calls : List Call} {demands : List External} {builder : Builder}

theorem accounts_empty : empty.Accounts [] [] :=
  ⟨Pool.indexed_empty, rfl, .nil, rfl, fun _ none => by cases none⟩

/-- What neither calls nor stores a text nor requires a function changes no account. -/
theorem Accounts.keep {after : Builder} (accounts : builder.Accounts calls demands)
    (pool : after.pool = builder.pool) (lines : after.callLines = builder.callLines)
    (externals : after.externals = builder.externals) : after.Accounts calls demands :=
  ⟨pool ▸ accounts.indexed, pool ▸ accounts.texts, by rw [pool, lines]; exact accounts.lines,
    externals ▸ accounts.required, accounts.covered⟩

theorem Accounts.withExternal (accounts : builder.Accounts calls demands) (external : External) :
    (builder.withExternal external).Accounts calls (demands ++ [external]) :=
  ⟨accounts.indexed, accounts.texts, accounts.lines,
    Externals.required_require accounts.required external,
    fun call member => List.mem_append_left _ (accounts.covered call member)⟩

theorem Accounts.withCall (accounts : builder.Accounts calls demands) {external : External}
    (demanded : external ∈ demands) (format : String) (argument : Option CallArgument) :
    (builder.withCall external format argument).Accounts (calls ++ [⟨external, format⟩])
      demands := by
  have lines : (builder.withCall external format argument).callLines = builder.callLines ++
      [.value builder.listing.next (.call external (builder.pool.intern format).1 argument)] := by
    simp [callLines, Builder.withCall, Builder.withValue, Builder.withText, Listing.addValue,
      Line.content]
  refine ⟨accounts.indexed.intern format, ?_, ?_, accounts.required, ?_⟩
  · rw [List.map_append]
    exact Pool.texts_intern accounts.indexed accounts.texts format
  · rw [lines]
    have grown := builder.pool.intern_grows format
    refine List.rel_append (accounts.lines.imp ?_) (.cons (.intro ?_) .nil)
    · rintro _ _ ⟨names⟩
      exact .intro (names.mono grown)
    · exact Pool.names_intern accounts.indexed format
  · intro call member
    rcases List.mem_append.1 member with earlier | last
    · exact accounts.covered call earlier
    · cases List.mem_singleton.1 last
      exact demanded

/-- A line that calls nothing changes no account. -/
theorem Accounts.withValue (accounts : builder.Accounts calls demands) {instruction : Instruction}
    (other : ∀ external pooled argument, instruction ≠ .call external pooled argument) :
    (builder.withValue instruction).Accounts calls demands := by
  refine accounts.keep rfl ?_ rfl
  cases instruction with
  | call external pooled argument => exact absurd rfl (other external pooled argument)
  | _ => simp [callLines, Builder.withValue, Listing.addValue, Line.content]

theorem Accounts.withEffect (accounts : builder.Accounts calls demands) {instruction : Instruction}
    (other : ∀ external pooled argument, instruction ≠ .call external pooled argument) :
    (builder.withEffect instruction).Accounts calls demands := by
  refine accounts.keep rfl ?_ rfl
  cases instruction with
  | call external pooled argument => exact absurd rfl (other external pooled argument)
  | _ => simp [callLines, Builder.withEffect, Listing.addEffect, Line.content]

theorem Accounts.withStack (accounts : builder.Accounts calls demands) (stack : List Operand) :
    (builder.withStack stack).Accounts calls demands :=
  accounts.keep rfl rfl rfl

theorem Accounts.withSlot (accounts : builder.Accounts calls demands) (name : String)
    (slot : Slot) : (builder.withSlot name slot).Accounts calls demands :=
  accounts.keep rfl rfl rfl

/-- Carrying an operand calls nothing. -/
theorem Carries.accounts {before after : Builder} {operand value : Operand} {target : Kind}
    (carried : Carries before operand target value after)
    (accounts : before.Accounts calls demands) : after.Accounts calls demands := by
  cases carried with
  | kept => exact accounts
  | converted _ => exact accounts.withValue (by simp)

end Builder

namespace Command

open Builder

variable {calls : List Call} {demands : List External} {before after : Builder}

/-- A command without a call that has to do with no function. -/
theorem accounts_of_quiet {command : Command} (noCall : command.call? before = none)
    (noExternal : command.external? = none) (accounts : after.Accounts calls demands) :
    after.Accounts (calls ++ (command.call? before).toList)
      (demands ++ command.external?.toList) := by
  simpa [noCall, noExternal] using accounts

/-- Each step adds its call and the function it has to do with to the account. -/
theorem Step.accounts {command : Command} (step : Step command before after)
    (accounts : before.Accounts calls demands) :
    after.Accounts (calls ++ (command.call? before).toList)
      (demands ++ command.external?.toList) := by
  cases step with
  | declare => exact accounts_of_quiet rfl rfl ((accounts.withValue (by simp)).withSlot _ _)
  | declareNamed _ => exact accounts_of_quiet rfl rfl ((accounts.withValue (by simp)).withSlot _ _)
  | load _ => exact accounts_of_quiet rfl rfl ((accounts.withValue (by simp)).withStack _)
  | storeNothing _ _ => exact accounts_of_quiet rfl rfl accounts
  | store _ _ carried =>
    have carriedAccounts := carried.accounts (accounts.withStack _)
    exact accounts_of_quiet rfl rfl (carriedAccounts.withEffect (by simp))
  | read found =>
    have called := (accounts.withExternal .scanf).withCall (List.mem_append_right _ (.head _))
    simpa [call?, external?, found] using called _ _
  | write =>
    have called := (accounts.withExternal .printf).withCall (List.mem_append_right _ (.head _))
    exact called _ _
  | printNothing empty => simpa [call?, external?, empty] using accounts.withExternal .printf
  | print top carried =>
    have carriedAccounts := carried.accounts ((accounts.withExternal .printf).withStack _)
    have called := carriedAccounts.withCall (List.mem_append_right _ (.head _))
    rw [carried.kind_eq]
    simpa [call?, external?, top] using called _ _
  | pushInteger => exact accounts_of_quiet rfl rfl (accounts.withStack _)
  | pushReal => exact accounts_of_quiet rfl rfl (accounts.withStack _)
  | arithmeticNothing _ => exact accounts_of_quiet rfl rfl accounts
  | arithmetic _ leftCarried rightCarried =>
    have leftAccounts := leftCarried.accounts (accounts.withStack _)
    have rightAccounts := rightCarried.accounts leftAccounts
    exact accounts_of_quiet rfl rfl ((rightAccounts.withValue (by simp)).withStack _)

/-- A command that is refused makes no call. -/
theorem Refused.call?_eq_none {command : Command} {failure : BuildError}
    (refused : Refused command before failure) : command.call? before = none := by
  cases refused with
  | unknownType _ => rfl
  | unknownVariable needs unbound =>
    cases command <;> cases needs <;> simp [call?, unbound]

end Command

namespace Request

open Builder

variable {calls : List Call} {demands : List External} {before : Builder}

theorem submit_single (tracing : Tracing) (command : Command) (before : Builder) :
    (submit tracing (.single command) before).failure =
        (command.perform tracing before).failure ∧
      (submit tracing (.single command) before).builder =
        (command.perform tracing before).builder := by
  unfold submit commands Command.performAll Command.performAll
  cases failed : (command.perform tracing before).failure <;> simp [failed]

/-- Writing a variable loads it and prints it, or fails and changes nothing. -/
theorem submit_writeVariable (tracing : Tracing) (name : String) (before : Builder) :
    (∃ slot middle, before.slot? name = some slot ∧
        Command.Step (.load name) before middle ∧
        middle.stack = .register before.listing.next slot.kind :: before.stack ∧
        (submit tracing (.writeVariable name) before).failure = none ∧
        Command.Step .print middle (submit tracing (.writeVariable name) before).builder) ∨
      (before.slot? name = none ∧
        (submit tracing (.writeVariable name) before).failure ≠ none ∧
        (submit tracing (.writeVariable name) before).builder = before) := by
  unfold submit commands Compile.commands Command.performAll
  rcases Command.perform_cases tracing (.load name) before with ⟨accepted, step⟩ |
    ⟨failure, failed, refused, unchanged⟩
  · left
    simp only [accepted]
    generalize (Command.perform tracing (.load name) before).builder = middle at step ⊢
    have found : ∃ slot, before.slot? name = some slot ∧
        middle.stack = .register before.listing.next slot.kind :: before.stack := by
      cases step with
      | load found => exact ⟨_, found, rfl⟩
    obtain ⟨slot, found, stack⟩ := found
    obtain ⟨failure, builder⟩ := submit_single tracing .print middle
    simp only [submit, commands] at failure builder
    rcases Command.perform_cases tracing .print middle with ⟨printed, printStep⟩ |
      ⟨_, _, refused, _⟩
    · refine ⟨slot, middle, found, step, stack, failure.trans printed, ?_⟩
      rw [builder]
      exact printStep
    · cases refused with
      | unknownVariable needs _ => cases needs
  · right
    simp only [failed]
    cases refused with
    | unknownVariable needs unbound =>
      cases needs
      exact ⟨unbound, by simp, unchanged⟩

/-- A request adds its call to the account and, if it succeeds, the function it has to
do with. -/
theorem submit_accounts (tracing : Tracing) (request : Request)
    (accounts : before.Accounts calls demands) :
    (request.submit tracing before).builder.Accounts
      (calls ++ (request.call? before).toList)
      (demands ++ (if (request.submit tracing before).failure = none then [request]
        else []).filterMap external?) := by
  cases request with
  | single command =>
    obtain ⟨failure, builder⟩ := submit_single tracing command before
    rw [failure, builder]
    rcases Command.perform_cases tracing command before with ⟨accepted, step⟩ |
      ⟨_, failed, refused, unchanged⟩
    · have added := step.accounts accounts
      simp only [accepted, if_true]
      cases external : command.external? <;> simpa [external?, call?, external] using added
    · simpa [failed, unchanged, call?, refused.call?_eq_none] using accounts
  | writeVariable name =>
    rcases submit_writeVariable tracing name before with
      ⟨slot, middle, found, load, stack, succeeded, print⟩ | ⟨unbound, failed, unchanged⟩
    · have printed := print.accounts (load.accounts accounts)
      simpa [succeeded, external?, call?, found, stack, Command.call?, Command.external?,
        Operand.kind] using printed
    · simpa [failed, unchanged, call?, unbound] using accounts

/-- After any requests the account is that of the requests. -/
theorem submitAll_accounts (tracing : Tracing) (requests : List Request)
    (accounts : before.Accounts calls demands) :
    (submitAll tracing requests before).Accounts
      (calls ++ Request.calls tracing requests before)
      (demands ++ (succeeded tracing requests before).filterMap external?) := by
  induction requests generalizing before calls demands with
  | nil => simpa [submitAll, Request.calls, succeeded] using accounts
  | cons request rest inductionHypothesis =>
    have others := inductionHypothesis (submit_accounts tracing request accounts)
    simpa only [submitAll, Request.calls, succeeded, List.append_assoc, List.filterMap_append]
      using others

end Request

/-! ### Closed modules -/

namespace Call

/-- How a call is spelled up to its format, which is the text at a place. -/
def opening (pointers : Pointers) (place : Nat) (call : Call) : String :=
  let size := toString ((utf8 call.format).length + 1)
  match pointers with
  | .typed =>
    "call i32 (i8*, ...) @" ++ call.external.symbol ++ "(i8* getelementptr inbounds ([" ++ size ++
      " x i8], [" ++ size ++ " x i8]* @str" ++ toString place ++ ", i64 0, i64 0)"
  | .untyped => "call i32 (ptr, ...) @" ++ call.external.symbol ++ "(ptr @str" ++ toString place

/-- How the format of a call is defined at a place. -/
def definition (place : Nat) (call : Call) : String :=
  "@str" ++ toString place ++ " = private unnamed_addr constant [" ++
    toString ((utf8 call.format).length + 1) ++ " x i8] c\"" ++ escapeBytes call.format ++ "\\00\""

end Call

theorem typedOpening_eq (symbol size place : String) :
    "call i32 (i8*, ...) @" ++ symbol ++ "(i8* getelementptr inbounds ([" ++ size ++
        " x i8], [" ++ size ++ " x i8]* @str" ++ place ++ ", i64 0, i64 0)" =
      "call " ++ ("i32 (" ++ "i8*" ++ ", ...)") ++ " @" ++ symbol ++ "(" ++
        ("i8* getelementptr inbounds (" ++ ("[" ++ size ++ " x i8]") ++ ", " ++
          ("[" ++ size ++ " x i8]") ++ "* " ++ ("@str" ++ place) ++ ", i64 0, i64 0)") := by
  rw [← String.toList_inj]
  simp only [String.toList_append, List.append_assoc]
  simp

theorem untypedOpening_eq (symbol place : String) :
    "call i32 (ptr, ...) @" ++ symbol ++ "(ptr @str" ++ place =
      "call " ++ ("i32 (" ++ "ptr" ++ ", ...)") ++ " @" ++ symbol ++ "(" ++
        ("ptr " ++ ("@str" ++ place)) := by
  rw [← String.toList_inj]
  simp only [String.toList_append, List.append_assoc]
  simp

/-- A call opens as its instruction does. -/
theorem Call.opening_eq (pointers : Pointers) (place : Nat) (call : Call) :
    call.opening pointers place =
      "call " ++ pointers.variadic ++ " @" ++ call.external.symbol ++ "(" ++
        pointers.toText ⟨place, (utf8 call.format).length + 1⟩ := by
  cases pointers with
  | typed => exact typedOpening_eq call.external.symbol _ (toString place)
  | untyped => exact untypedOpening_eq call.external.symbol (toString place)

/-- The text of a line makes a call whose format is a text of the module, by its place and
its size. -/
structure Code.Program.Refers (program : Program) (pointers : Pointers) (call : Call)
    (place : Nat) (text : String) : Prop where
  positive : 0 < place
  held : program.pool.texts[place - 1]? = some call.format
  defined : program.pool.definitions[place - 1]? = some (call.definition place)
  spelled : ∃ register argument, (argument = "" ∨ ∃ given, argument = ", " ++ given) ∧
    text = registerText register ++ " = " ++ call.opening pointers place ++ argument ++ ")"

/-- The text of a module holds the definitions of its texts, the lines of its body and the
declarations of its functions, in this order, each on a line of its own. -/
def Code.Program.Prints (program : Program) (spelling : Spelling) : Prop :=
  ∃ before opening closing, program.text spelling =
    before ++ endLines program.pool.definitions ++ opening ++
      endLines ((program.bodyLines spelling).map (Text.spaces spelling.indent ++ ·)) ++ closing ++
      endLines (program.externals.required.map (·.declaration spelling.pointers))

theorem Code.Program.prints (program : Program) (spelling : Spelling) :
    program.Prints spelling := by
  have definitions : ∃ blank, program.poolSection = endLines program.pool.definitions ++ blank := by
    unfold poolSection
    split
    · rename_i nothing
      exact ⟨"", by simp [Pool.definitions, List.isEmpty_iff.1 nothing, endLines]⟩
    · exact ⟨"\n", rfl⟩
  have declarations : ∃ blank, program.externalSection spelling =
      blank ++ endLines (program.externals.required.map (·.declaration spelling.pointers)) := by
    unfold externalSection
    split
    · rename_i nothing
      exact ⟨"", by simp [List.isEmpty_iff.1 nothing, endLines]⟩
    · exact ⟨"\n", rfl⟩
  obtain ⟨blank, definitions⟩ := definitions
  obtain ⟨gap, declarations⟩ := declarations
  refine ⟨targetSection spelling, blank ++ ("define i32 @" ++ spelling.entry ++ "() \x7b\n"),
    "\x7d\n" ++ gap, ?_⟩
  rw [text, definitions, declarations, functionSection]
  simp only [String.append_assoc]

/-- A module that is closed over the calls that were made by the requests that
succeeded. -/
structure Code.Program.Closed (program : Program) (calls : List Call)
    (succeeded : List Request) : Prop where
  texts : program.pool.texts = (calls.map (·.format)).eraseDups
  distinct : program.pool.texts.Nodup
  printed : ∀ spelling, program.Prints spelling
  refers : ∀ pointers, List.Forall₂
    (fun line call => ∃ place, program.Refers pointers call place (line.spell pointers))
    (program.body.filter fun line => line.content matches .call _ _ _) calls
  declared : ∀ pointers, ∀ call ∈ calls,
    (program.externals.required.map (·.declaration pointers)).count
      (call.external.declaration pointers) = 1
  once : ∀ pointers, (program.externals.required.map (·.declaration pointers)).Nodup
  order : program.externals.required = (succeeded.filterMap Request.external?).eraseDups
  scanf : .scanf ∈ program.externals.required ↔ ∃ name, .single (.read name) ∈ succeeded
  printf : .printf ∈ program.externals.required ↔
    (∃ text, .single (.write text) ∈ succeeded) ∨ .single .print ∈ succeeded ∨
      ∃ name, .writeVariable name ∈ succeeded

theorem Code.External.declaration_injective (pointers : Pointers) :
    Function.Injective (External.declaration · pointers) := by
  intro first second same
  have different : ¬External.printf.declaration pointers = External.scanf.declaration pointers := by
    cases pointers <;> decide
  cases first with
  | printf =>
    cases second with
    | printf => rfl
    | scanf => exact absurd same different
  | scanf =>
    cases second with
    | printf => exact absurd same.symm different
    | scanf => rfl

/-- Only reading has to do with input. -/
theorem Request.external?_eq_scanf_iff {request : Request} :
    request.external? = some .scanf ↔ ∃ name, request = .single (.read name) := by
  cases request with
  | single command => cases command <;> simp [external?, Command.external?]
  | writeVariable name => simp [external?]

/-- Only writing and printing have to do with output. -/
theorem Request.external?_eq_printf_iff {request : Request} :
    request.external? = some .printf ↔
      (∃ text, request = .single (.write text)) ∨ request = .single .print ∨
        ∃ name, request = .writeVariable name := by
  cases request with
  | single command => cases command <;> simp [external?, Command.external?]
  | writeVariable name => simp [external?]

theorem Builder.Makes.refers {builder : Builder} {line : Line Instruction} {call : Call}
    (makes : Makes builder.pool.texts line call) (pointers : Pointers) :
    ∃ place, builder.program.Refers pointers call place (line.spell pointers) := by
  obtain @⟨id, external, format, ⟨place, size⟩, argument, names⟩ := makes
  obtain rfl : size = (utf8 format).length + 1 := names.size
  refine ⟨place, names.positive, names.found, Pool.definitions_getElem? names, id,
    argument.elim "" fun argument => ", " ++ argument.text pointers, ?_, ?_⟩
  · cases argument with
    | none => exact .inl rfl
    | some given => exact .inr ⟨_, rfl⟩
  · have spelled : Line.spell pointers (.value id (.call external
          ⟨place, (utf8 format).length + 1⟩ argument)) = registerText id ++ " = " ++
        ("call " ++ pointers.variadic ++ " @" ++ external.symbol ++ "(" ++
          pointers.toText ⟨place, (utf8 format).length + 1⟩ ++
          (argument.elim "" fun argument => ", " ++ argument.text pointers) ++ ")") := rfl
    rw [spelled, ← Call.opening_eq pointers place ⟨external, format⟩]
    simp only [String.append_assoc]

/-- Whatever is asked of a new builder, and whether or not it can be done, the module it
has built is closed over the calls that were made. -/
theorem Request.module_closed (tracing : Tracing) (requests : List Request) :
    (submitAll tracing requests .empty).program.Closed (calls tracing requests .empty)
      (succeeded tracing requests .empty) := by
  have accounts := submitAll_accounts tracing requests Builder.accounts_empty
  simp only [List.nil_append] at accounts
  have distinct : (submitAll tracing requests .empty).externals.required.Nodup :=
    accounts.required ▸ nodup_eraseDups _
  have once (pointers : Pointers) : ((submitAll tracing requests .empty).externals.required.map
      (·.declaration pointers)).Nodup :=
    distinct.map (External.declaration_injective pointers)
  have member (external : External) :
      external ∈ (submitAll tracing requests .empty).externals.required ↔
        ∃ request ∈ succeeded tracing requests .empty, request.external? = some external := by
    rw [accounts.required, List.mem_eraseDups, List.mem_filterMap]
  refine ⟨accounts.texts, accounts.texts ▸ nodup_eraseDups _, Program.prints _, ?_, ?_, once,
    accounts.required, ?_, ?_⟩
  · exact fun pointers => accounts.lines.imp fun _ _ makes => makes.refers pointers
  · intro pointers call called
    have required := (member call.external).2
      (List.mem_filterMap.1 (accounts.covered call called))
    exact List.count_eq_one_of_mem (once pointers) (List.mem_map_of_mem required)
  · refine (member .scanf).trans ⟨?_, fun ⟨name, found⟩ => ⟨_, found, rfl⟩⟩
    rintro ⟨request, found, needs⟩
    obtain ⟨name, rfl⟩ := external?_eq_scanf_iff.1 needs
    exact ⟨name, found⟩
  · refine (member .printf).trans ⟨?_, ?_⟩
    · rintro ⟨request, found, needs⟩
      rcases external?_eq_printf_iff.1 needs with ⟨text, rfl⟩ | rfl | ⟨name, rfl⟩
      · exact .inl ⟨text, found⟩
      · exact .inr (.inl found)
      · exact .inr (.inr ⟨name, found⟩)
    · rintro (⟨text, found⟩ | found | ⟨name, found⟩) <;> exact ⟨_, found, rfl⟩

end Stackline
