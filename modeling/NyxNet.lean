import NyxNet.Vdf
import NyxNet.Fec.Timing
import NyxNet.Alerting.Types
import NyxNet.Alerting.System
import NyxNet.Alerting.History
import NyxNet.Alerting.Active
import NyxNet.Alerting.Cooldown
import NyxNet.Alerting.Effects
import NyxNet.Alerting.Policy
import NyxNet.Alerting.Lifecycle
import NyxNet.Alerting.Statistics
import NyxNet.Alerting.Webhook
import NyxNet.Settings.Sync
import NyxNet.Settings.Frames
