import Prelaunch.Main
import Prelaunch.Proofs.Confinement
import Prelaunch.Proofs.Containment
import Prelaunch.Proofs.Effects
import Prelaunch.Proofs.FetchStage
import Prelaunch.Proofs.OwnHeader
import Prelaunch.Proofs.ProviderHosts
import Prelaunch.Proofs.SecretSources
import Prelaunch.Proofs.Utf8.RoundTrip
import Prelaunch.Proofs.Agreement
import Prelaunch.Proofs.Agreement.Preparation
import Prelaunch.Proofs.Environment
import Prelaunch.Proofs.EmptyVariables
import Prelaunch.Proofs.SecretValues
import Prelaunch.Proofs.EnvFile
import Prelaunch.Proofs.HandOver
import Prelaunch.Proofs.Settings.KeyPath
import Prelaunch.Proofs.Settings.Overlay
import Prelaunch.Proofs.Settings.Group
import Prelaunch.Proofs.Settings.Plain
import Prelaunch.Proofs.Tunables
import Prelaunch.Proofs.Repetition
import Prelaunch.Proofs.Planning
import Prelaunch.Proofs.Requirements
import Prelaunch.Proofs.Collision
import Prelaunch.Proofs.HeaderField
import Prelaunch.Proofs.Delivery
import Prelaunch.Proofs.Json.Number
import Prelaunch.Proofs.Json.Token
import Prelaunch.Proofs.Answer
import Prelaunch.Proofs.DomainLabels
import Prelaunch.Proofs.HeaderText
import Prelaunch.Proofs.Snapshot
import Prelaunch.Proofs.RequestLimit
import Prelaunch.Proofs.LaunchFailure
import Prelaunch.Proofs.DownloadBase
import Prelaunch.Proofs.Numeral
import Prelaunch.Proofs.Settings.Sparing
import Prelaunch.Proofs.TextOverrides
import Prelaunch.Proofs.UrlDescent
import Prelaunch.Proofs.Spelling
import Prelaunch.Proofs.Views
import Prelaunch.Proofs.Settled
