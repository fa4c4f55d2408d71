import Replay.Main
import Replay.Backend.Recording
import Replay.Proofs.Execution.Flatten
import Replay.Proofs.Playbook
import Replay.Proofs.Resolution
import Replay.Proofs.Template.Verbatim
import Replay.Proofs.Template.Normal
import Replay.Proofs.Store.Reading
import Replay.Proofs.Script.Encoding
import Replay.Proofs.Backend.Session
import Replay.Proofs.Execution.Trace
import Replay.Proofs.Execution.Failure
import Replay.Proofs.Backend.Rehearsal
import Replay.Proofs.Profile.Runs
import Replay.Proofs.Execution.Context
import Replay.Proofs.Execution.MissingTexts
import Replay.Proofs.Store.Embedding
import Replay.Proofs.Backend.Requests
import Replay.Proofs.Traversal
import Replay.Proofs.Script.Locality
import Replay.Proofs.Template.Segments
import Replay.Proofs.Store.NormalKeys
import Replay.Proofs.Backend.Failures
import Replay.Proofs.Execution.Tokens
import Replay.Proofs.Backend.Coordinates
import Replay.Proofs.Backend.Handles
import Replay.Proofs.Backend.Pauses
import Replay.Proofs.Execution.Labels
import Replay.Proofs.Action.Path
