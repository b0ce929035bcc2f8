import Ultralight.ByteReader
import Ultralight.Main
import Ultralight.Proofs.Authentication
import Ultralight.Proofs.BackdoorWrite
import Ultralight.Proofs.Clone
import Ultralight.Proofs.Detection
import Ultralight.Proofs.DumpPages
import Ultralight.Proofs.ErrorDetection
import Ultralight.Proofs.ExcludedTag
import Ultralight.Proofs.FittingSession
import Ultralight.Proofs.HexText
import Ultralight.Proofs.HiddenSecrets
import Ultralight.Proofs.ImageBounds
import Ultralight.Proofs.ImagePages
import Ultralight.Proofs.IntactSession
import Ultralight.Proofs.KnownCredentials
import Ultralight.Proofs.Monitor
import Ultralight.Proofs.OneTimeMemory
import Ultralight.Proofs.OpenTag
import Ultralight.Proofs.OperationEffects
import Ultralight.Proofs.PageArray
import Ultralight.Proofs.Prompts
import Ultralight.Proofs.ProtectedPages
import Ultralight.Proofs.RawScope
import Ultralight.Proofs.RawStretches
import Ultralight.Proofs.ReadBack
import Ultralight.Proofs.ReadEffect
import Ultralight.Proofs.ReadOrder
import Ultralight.Proofs.ReadSequence
import Ultralight.Proofs.Recovery
import Ultralight.Proofs.RepeatedWrite
import Ultralight.Proofs.RewrittenUid
import Ultralight.Proofs.RunOutput
import Ultralight.Proofs.RunWrites
import Ultralight.Proofs.Selection
import Ultralight.Proofs.SessionEffects
import Ultralight.Proofs.ShiftRegister
import Ultralight.Proofs.ShortAnswers
import Ultralight.Proofs.SleepingTag
import Ultralight.Proofs.SoundTag
import Ultralight.Proofs.SteadyTag
import Ultralight.Proofs.StoredPages
import Ultralight.Proofs.TagMemory
import Ultralight.Proofs.TagSteps
import Ultralight.Proofs.TextBytes
import Ultralight.Proofs.Traffic
import Ultralight.Proofs.UnlockTraffic
import Ultralight.Proofs.Waiting
import Ultralight.Proofs.WritableTag
import Ultralight.Proofs.WriteEffect
import Ultralight.Proofs.WriteSequence
import Ultralight.ScriptedReader
import Ultralight.SimulatedTag
