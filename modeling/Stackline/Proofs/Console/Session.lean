import Mathlib
import Stackline.Compile.Emission
import Stackline.Console.Session
import Stackline.Proofs.Builder.Run
import Stackline.Proofs.Script.Trimming

/-!
# Sessions and emissions

A session that is fed a script line by line builds the module that the script is compiled
to. Each line is trimmed and read by itself, and its statements go to the builder that the
lines before it left behind. As reading is compositional over lines and trimming leaves the
operations alone, the builder is handed the same commands as by the whole script.
-/

namespace Stackline.Console

open Stackline.Command (carryOut? carryOut?_append)
open Stackline.Compile
open Stackline.Grammar
open Stackline.Script
open Stackline.Terminal

/-- What begins with a colon is no script. -/
theorem parse_ne_ok_of_colon {source : String} {rest : List Char}
    (colon : source.toList = ':' :: rest) (statements : List Statement) :
    parse source ≠ .ok statements := by
  have refused : phrases (':' :: rest) = .error (.of .start none) :=
    shape_foreign (by decide) (by decide) (by decide) .start none rest
  exact parse_ne_ok_of_refused (colon ▸ refused) statements

/-- A line that can be read as a script asks for nothing, or for this script. -/
theorem ofLine_of_read {line : List Char} {statements : List Statement}
    (read : parseChars (Text.trimChars line) = .ok statements) :
    Inquiry.ofLine line = .nothing ∧ statements = [] ∨
      ∃ source, Inquiry.ofLine line = .script source ∧ parse source = .ok statements := by
  have trimmed : parse (Text.trim (String.ofList line)) = .ok statements := by
    simpa [parse, Text.trim] using read
  unfold Inquiry.ofLine
  generalize Text.trim (String.ofList line) = source at trimmed ⊢
  split
  case h_1 =>
    have nothing : parse "" = .ok [] := by cbv
    cases nothing.symm.trans trimmed
    exact .inl ⟨rfl, rfl⟩
  case h_7 => exact .inr ⟨_, rfl, trimmed⟩
  -- All other requests begin with a colon.
  all_goals exact absurd trimmed (parse_ne_ok_of_colon rfl statements)

/-- A line that can be read and whose commands are accepted is carried out in silence. -/
theorem respond_of_accepted {ink : Ink} {line : List Char} {statements : List Statement}
    {before after : Builder} (unchanged : corrected line = some line)
    (read : parseChars line = .ok statements)
    (accepted : carryOut? (scriptCommands statements) before = some after) :
    respond ink before line = { builder := after } := by
  obtain ⟨trimmed, readTrimmed, same⟩ := parseChars_trimChars read
  rw [← scriptCommands_congr same] at accepted
  simp only [respond, unchanged]
  rcases ofLine_of_read readTrimmed with ⟨nothing, rfl⟩ | ⟨source, script, readSource⟩
  · rw [nothing]
    cases accepted
    rfl
  · obtain ⟨succeeded, rfl⟩ := (replay_accepted_iff (sessionTracing ink)).2 accepted
    simp only [script, Inquiry.reply, replaySource, readSource, succeeded]

/-- Lines that are accepted one after the other are passed in silence. -/
theorem converse_of_accepted {ink : Ink} {lines : List (List Char)}
    {parts : List (List Statement)} {before after : Builder}
    (unchanged : ∀ line ∈ lines, corrected line = some line)
    (read : List.Forall₂ (fun line part => parseChars line = .ok part) lines parts)
    (accepted : carryOut? (scriptCommands parts.flatten) before = some after)
    (rest : List (List Char)) :
    converse ink (lines ++ rest) before = converse ink rest after := by
  induction read generalizing before with
  | nil =>
    cases accepted
    rfl
  | @cons line part lines parts readLine _ inductionHypothesis =>
    obtain ⟨first, others⟩ := List.forall_mem_cons.1 unchanged
    have split : scriptCommands (part :: parts).flatten =
        scriptCommands part ++ scriptCommands parts.flatten := by
      simp [scriptCommands]
    rw [split, carryOut?_append] at accepted
    obtain ⟨middle, firstAccepted, othersAccepted⟩ := Option.bind_eq_some_iff.1 accepted
    rw [List.cons_append, converse, respond_of_accepted first readLine firstAccepted]
    simpa using inductionHypothesis others othersAccepted

/-- A script and a request for its module, as they are typed. -/
theorem lines_of_request (source : String) :
    Text.lines (source ++ "\n:ir\n").toList =
      Text.fields '\n' source.toList ++ [[':', 'i', 'r']] := by
  have split : (source ++ "\n:ir\n").toList = source.toList ++ '\n' :: [':', 'i', 'r', '\n'] := by
    simp
  have request : Text.fields '\n' [':', 'i', 'r', '\n'] = [[':', 'i', 'r'], []] := by decide
  simp [Text.lines, split, Text.fields_append, request]

theorem respond_request (ink : Ink) (builder : Builder)
    (unchanged : corrected [':', 'i', 'r'] = some [':', 'i', 'r']) :
    respond ink builder [':', 'i', 'r'] =
      { stdout := builder.program.text {}, builder := builder } := by
  have asked : Inquiry.ofLine [':', 'i', 'r'] = .showProgram := by decide
  simp only [respond, unchanged, asked, Inquiry.reply]

end Stackline.Console
