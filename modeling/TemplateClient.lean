import TemplateClient.Main
import TemplateClient.Proofs.Prelude
import TemplateClient.Proofs.Session.Effect
import TemplateClient.Proofs.Session.Moves
import TemplateClient.Proofs.Session.Runs
import TemplateClient.Proofs.Session.InFlight
import TemplateClient.Proofs.Session.Events
import TemplateClient.Proofs.Session.Bystanders
import TemplateClient.Proofs.Session.Incidents
import TemplateClient.Proofs.Session.Course
import TemplateClient.Proofs.Session.Submission
import TemplateClient.Proofs.Session.Flag
import TemplateClient.Proofs.Session.Lockout
import TemplateClient.Proofs.Session.Answered
import TemplateClient.Proofs.Session.History
import TemplateClient.Proofs.Session.Dropped
import TemplateClient.Proofs.Session.Drawing
import TemplateClient.Proofs.Overlay.Notices
import TemplateClient.Proofs.Service.Verdict
import TemplateClient.Proofs.Service.Response
import TemplateClient.Proofs.Service.Damaged
import TemplateClient.Proofs.Service.Problem
import TemplateClient.Proofs.Http.Trail
import TemplateClient.Proofs.CommandLine.Spelling
import TemplateClient.Proofs.Form.Request
import TemplateClient.Proofs.Settings.Agreement
import TemplateClient.Proofs.Settings.Millis
import TemplateClient.Proofs.Program.Ways
import TemplateClient.Proofs.Program.Panics
import TemplateClient.Proofs.Program.Messages
import TemplateClient.Proofs.Program.Contract
import TemplateClient.Proofs.Program.Fidelity
import TemplateClient.Proofs.Program.HollowBase
