import BluezTutorial.LabelledRun
import BluezTutorial.HandleTable
import BluezTutorial.KeyedList
import BluezTutorial.ReferenceCount
import BluezTutorial.History
import BluezTutorial.ByteStream
import BluezTutorial.CString
import BluezTutorial.RemoteCall
import BluezTutorial.Socket
import BluezTutorial.DeviceRemoval
import BluezTutorial.DeviceSelection
import BluezTutorial.Listener
import BluezTutorial.Operations
import BluezTutorial.Ownership
import BluezTutorial.ReportedState
import BluezTutorial.Lifecycle
import BluezTutorial.Registration
import BluezTutorial.ConnectionAgreement
import BluezTutorial.Session
import BluezTutorial.Interleaving
import BluezTutorial.ReceiveLoop
import BluezTutorial.Framing
import BluezTutorial.SharedSocket
import BluezTutorial.Agent
import BluezTutorial.ExtProfile
import BluezTutorial.Connections
import BluezTutorial.Callbacks
import BluezTutorial.ServiceState
import BluezTutorial.DaemonListener
import BluezTutorial.CreateExt
import BluezTutorial.ProfileManager
import BluezTutorial.Authorization
import BluezTutorial.AuthorizationProgress
import BluezTutorial.AgentManager
import BluezTutorial.AgentReferences
import BluezTutorial.DefaultAgent
