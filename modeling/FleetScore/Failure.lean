import FleetScore.Storage.FileTree
import FleetScore.Text.Quoted
import FleetScore.Decimal.Natural

/-!
# What can go wrong

Every way in which a step of the pipeline refuses to go on, as a cause and not as a
sentence.  Callers tell the causes apart; `message` words them for people.

Two causes come from outside and bring a wording that is not this library's: a
database driver that gave up, and a syntax error in a text that should have been JSON.
Where the wording is not known their `message?` is `none`, and `message` shows what is
known of them.
-/

namespace FleetScore

/-- How two lists of names differ: names that one list lacks or the other repeats, and names
that only the other has, or repeats, both ascending. -/
structure NameDifference where
  missing : List String
  extra : List String
  deriving DecidableEq, Repr

/-- Why the event store cannot be read.  A source may give a reason; for a database nobody
may have said how to reach it, its driver may have given up, in words that may be known,
and a query may have taken more than the seconds that it was allowed to. -/
inductive StoreFault where
  | refused (reason : String)
  | noCredentials
  | driver (reason : Option String)
  | overdue (seconds : Nat)
  deriving DecidableEq, Repr

/-- Why a text is no feature manifest: it is no JSON, or it is JSON, but neither a manifest
record nor a list of names. -/
inductive ManifestFault where
  | malformed
  | unknownShape
  deriving DecidableEq, Repr

/-- Why a model cannot be fitted: rows and targets do not belong together, or there are none, or
the loss on the validation data stopped being a finite number. -/
inductive TrainingFault where
  | shapes (rows targets validationRows validationTargets : Nat)
  | diverged (epoch : Nat)
  deriving DecidableEq, Repr

/-- Why a step of the pipeline refused to go on. -/
inductive Failure where
  | storeUnavailable (fault : StoreFault)
  | featureSetMismatch (difference : NameDifference)
  | manifestMissing (path : Path)
  | manifestInvalid (fault : ManifestFault)
  | labelAlignment (orphanedFeatures orphanedLabels : List Int64)
  | training (fault : TrainingFault)
  | artifact (path : Path) (fault : FileFault)
  | serialization
  deriving DecidableEq, Repr

namespace StoreFault

/-- The reason, where it is known. -/
def reason? : StoreFault → Option String
  | .refused reason => some reason
  | .noCredentials => some "no database credentials configured"
  | .driver reason => reason
  | .overdue seconds => some ("query exceeded " ++ Decimal.natText seconds ++ "s timeout")

end StoreFault

namespace ManifestFault

/-- The reason, where it is known. -/
def reason? : ManifestFault → Option String
  | .malformed => none
  | .unknownShape => some "data did not match any variant of untagged enum ManifestFile"

end ManifestFault

namespace TrainingFault

/-- The reason in words. -/
def reason : TrainingFault → String
  | .shapes rows targets validationRows validationTargets =>
      "invalid training shapes: " ++ Decimal.natText rows ++ " rows, "
        ++ Decimal.natText targets ++ " targets, "
        ++ Decimal.natText validationRows ++ " validation rows, "
        ++ Decimal.natText validationTargets ++ " validation targets"
  | .diverged epoch => "validation loss diverged at epoch " ++ Decimal.natText epoch

end TrainingFault

namespace Failure

/-- A list of server identifiers in a message. -/
def serverList (ids : List Int64) : String :=
  Text.bracketed (ids.map fun id => Decimal.intText id.toInt)

/-- What a failure is called before its reason. -/
def headline : Failure → String
  | .storeUnavailable _ => "event store unavailable"
  | .featureSetMismatch _ => "feature set mismatch"
  | .manifestMissing _ => "feature manifest not found"
  | .manifestInvalid _ => "feature manifest is invalid"
  | .labelAlignment _ _ => "labels not aligned with features"
  | .training _ => "training failed"
  | .artifact path _ => "artifact error at " ++ path.text
  | .serialization => "serialization error"

/-- The reason of a failure, where it is known. -/
def reason? : Failure → Option String
  | .storeUnavailable fault => fault.reason?
  | .featureSetMismatch d =>
      some ("missing " ++ Text.quotedSet d.missing ++ ", extra " ++ Text.quotedSet d.extra)
  | .manifestMissing path => some path.text
  | .manifestInvalid fault => fault.reason?
  | .labelAlignment features labels =>
      some ("orphaned features " ++ serverList features ++ ", orphaned labels "
        ++ serverList labels)
  | .training fault => some fault.reason
  | .artifact _ fault => some fault.message
  | .serialization => none

/-- A failure in words, where all of them are known. -/
def message? (f : Failure) : Option String :=
  f.reason?.map fun reason => f.headline ++ ": " ++ reason

/-- A failure in words; an ellipsis stands for a reason that is not known. -/
def message (f : Failure) : String :=
  f.headline ++ ": " ++ f.reason?.getD "..."

end Failure
end FleetScore
