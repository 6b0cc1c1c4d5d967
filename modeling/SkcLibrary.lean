import SkcLibrary.Interaction.Sat
import SkcLibrary.GLib
import SkcLibrary.Types
import SkcLibrary.Globals
import SkcLibrary.Localcache
import SkcLibrary.Keyagent.Key
import SkcLibrary.Keyagent.Stm
import SkcLibrary.Keyagent.Session
import SkcLibrary.Keyagent.Intf
import SkcLibrary.Npm.Kms
import SkcLibrary.Apimodule.Utils
import SkcLibrary.Apimodule.Intf
import SkcLibrary.Interaction.Pool
import SkcLibrary.System
import SkcLibrary.Keyagent.View
import SkcLibrary.Keyagent.Rules
import SkcLibrary.Keyagent.Tables
import SkcLibrary.Keyagent.KeysBound
import SkcLibrary.Npm.Dialogue
import SkcLibrary.Npm.KmsRules
import SkcLibrary.Npm.KmsRuns
import SkcLibrary.Keyagent.LoadErrors
import SkcLibrary.Apimodule.Rules
import SkcLibrary.Apimodule.OnDemandRuns
import SkcLibrary.Keyagent.LoadRules
import SkcLibrary.Keyagent.Keytransfer
import SkcLibrary.Npm.Nonce
import SkcLibrary.Apimodule.KeyIds
import SkcLibrary.Keyagent.SessionCreate
import SkcLibrary.Npm.SessionIds
import SkcLibrary.Keyagent.Search
import SkcLibrary.Keyagent.CacheRows
import SkcLibrary.Keyagent.CacheReload
import SkcLibrary.Keyagent.Startup
import SkcLibrary.Apimodule.Startup
import SkcLibrary.Apimodule.TokenSessions
import SkcLibrary.Interaction.Mutex
import SkcLibrary.Threads
import SkcLibrary.Apimodule.TokenObjects
import SkcLibrary.Apimodule.TokenPins
import SkcLibrary.Apimodule.TokenInit
import SkcLibrary.Apimodule.Maintain
import SkcLibrary.Apimodule.TokenCreate
import SkcLibrary.Apimodule.ObjectSearch
import SkcLibrary.Apimodule.Preload
import SkcLibrary.Apimodule.Quotes
import SkcLibrary.Keyagent.CacheUndo
import SkcLibrary.Keyagent.CacheVerdicts
import SkcLibrary.Keyagent.CacheIds
import SkcLibrary.Apimodule.Nesting
import SkcLibrary.Apimodule.ChallengeKeys
import SkcLibrary.Apimodule.WrappingCalls
import SkcLibrary.Apimodule.WrappingKeys
import SkcLibrary.Apimodule.TokenLabels
import SkcLibrary.Apimodule.Deadlock
import SkcLibrary.Apimodule.LoadSeries
import SkcLibrary.Apimodule.Confidential
import SkcLibrary.Apimodule.Fork
import SkcLibrary.Apimodule.OwnData
import SkcLibrary.Apimodule.Requests
import SkcLibrary.Apimodule.Completes
