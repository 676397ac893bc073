import TripleSlash.Compiler
import TripleSlash.Machine

/-! A compiler whose answers are laid down in advance. It puts a fixed text in front of each
source, and a project build leaves fixed files and fixed output. -/
namespace TripleSlash.Compiler

structure Answers where
  /-- The message that every source is rejected with. -/
  rejection : Option Text
  /-- What stands in front of an output. -/
  lead : Text
  /-- What a project build leaves behind. -/
  leaves : List (Path × FileTree.Item)
  /-- Why a project build cannot be started, found out after it left its files. -/
  launchFailure : Option Text
  output : BuildOutput

def scripted (answers : Answers) : Compiler Machine where
  compileSource source _ :=
    match answers.rejection with
    | some message => Action.fail message
    | none => pure (answers.lead ++ source)
  buildProject _ := do
    Action.change fun m => m.depositAll answers.leaves
    match answers.launchFailure with
    | some text => Action.fail (.other text)
    | none => pure answers.output
  source_events source args := by
    split
    · exact .fail _
    · exact .pure _
  project_events manifest := by
    refine .bind (.change _) fun _ => ?_
    split
    · exact .fail _
    · exact .pure _

end TripleSlash.Compiler
