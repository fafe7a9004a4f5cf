import PageHost.Json.Writer
import PageHost.Main
import PageHost.Proofs.Bindings.Log
import PageHost.Proofs.Document.Traversal
import PageHost.Proofs.Edit.RoundTrip
import PageHost.Proofs.Event.FormValues
import PageHost.Proofs.History.SelfReference
import PageHost.Proofs.Markup.Unambiguous
import PageHost.Proofs.Page.Abort
import PageHost.Proofs.Page.Acceptance
import PageHost.Proofs.Page.Anchor
import PageHost.Proofs.Page.Attributes
import PageHost.Proofs.Page.Capture
import PageHost.Proofs.Page.Dispatch
import PageHost.Proofs.Page.Presence
import PageHost.Proofs.Page.Raise
import PageHost.Proofs.Page.Registration
import PageHost.Proofs.Page.Regroup
import PageHost.Proofs.Page.Renaming
import PageHost.Proofs.Page.StackEffect
import PageHost.Proofs.Page.Stamps
import PageHost.Proofs.Page.Teardown
import PageHost.Proofs.Page.Template
import PageHost.Proofs.Scheduler.Punctual
import PageHost.Proofs.Scheduler.Tick
import PageHost.Proofs.Session.Base
