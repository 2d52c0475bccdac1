/-
  ImageIntake.Proofs.Source.Call

  Whatever can be asked of a source, as data: the phase operations of a driver,
  the question for the locator, the cancellation and the closing.  Calls are
  made one after the other, in any order; the source and its surroundings are
  handed on from each to the next.
-/

import ImageIntake.Proofs.Source.Operations

namespace ImageIntake.Source

open ImageIntake.Action

/-! ## Calls -/

/-- One thing asked of a source. -/
inductive Call where
  | info
  | transfer (path : String)
  | transferFile (path : String)
  | process
  | url
  | cancel
  | close
deriving DecidableEq, Repr

/-- What a source answers. -/
inductive Answer where
  | phase (next : Phase)
  | url (known : Option Url)
  | fired (first : Bool)
  | closed
deriving DecidableEq, Repr

variable {ω : Type}

/-- What is done on a call. -/
def Call.perform (env : Collaborators ω) : Call → Operation ω Answer
  | .info => .phase <$> Source.info env
  | .transfer path => .phase <$> Source.transfer env path
  | .transferFile path => .phase <$> Source.transferFile env path
  | .process => .phase <$> Source.process
  | .url => .url <$> (driven env).url
  | .cancel => .fired <$> Source.cancel env
  | .close => (fun _ => .closed) <$> Source.close env

theorem after_perform_url (env : Collaborators ω) (source : Source) (s : ω) :
    (Call.url.perform env).after (source, s) = (.ok (.url source.url), source, s) := rfl

/-! ## Calls in a row -/

/-- What a source and its surroundings are after some calls, whatever came of each. -/
def afterCalls (env : Collaborators ω) (calls : List Call) (state : Source × ω) : Source × ω :=
  calls.foldl (fun state call => ((call.perform env).after state).2) state

end ImageIntake.Source
