import Watchdesk.Fault
import Watchdesk.Json.Decoder
import Watchdesk.Settings.Basic
import Watchdesk.Text.Quoted

/-!
# Settings files

A settings file is a JSON object with one member per group of settings. Every member may be left
out, and then has its default; members that are not known are skipped.
-/

namespace Watchdesk

open Decoder

/-- The backend group. -/
def BackendSettings.decoder : Decoder BackendSettings :=
  let defaults : BackendSettings := {}
  record
    [field "base_url" string, field "retries" nat32, field "retry_delay_ms" nat64]
    fun r => do
      let baseUrl ← r.defaulted "base_url" string defaults.baseUrl
      let retries ← r.defaulted "retries" nat32 defaults.retries
      let retryDelay ← r.defaulted "retry_delay_ms" nat64 defaults.retryDelay
      .ok { baseUrl, retries, retryDelay }

/-- The polling group. -/
def PollingSettings.decoder : Decoder PollingSettings :=
  let defaults : PollingSettings := {}
  record
    [field "job_running_interval_ms" nat64, field "job_idle_interval_ms" nat64,
      field "health_interval_ms" nat64]
    fun r => do
      let jobRunning ← r.defaulted "job_running_interval_ms" nat64 defaults.jobRunning
      let jobIdle ← r.defaulted "job_idle_interval_ms" nat64 defaults.jobIdle
      let health ← r.defaulted "health_interval_ms" nat64 defaults.health
      .ok { jobRunning, jobIdle, health }

/-- The runner group. -/
def RunnerSettings.decoder : Decoder RunnerSettings :=
  let defaults : RunnerSettings := {}
  record
    [field "settle_delay_ms" nat64, field "poll_interval_ms" nat64]
    fun r => do
      let settleDelay ← r.defaulted "settle_delay_ms" nat64 defaults.settleDelay
      let pollInterval ← r.defaulted "poll_interval_ms" nat64 defaults.pollInterval
      .ok { settleDelay, pollInterval }

/-- The notices group. -/
def NoticeSettings.decoder : Decoder NoticeSettings :=
  let defaults : NoticeSettings := {}
  record
    [field "default_duration_ms" nat64, field "capacity" nat64]
    fun r => do
      let defaultDuration ← r.defaulted "default_duration_ms" nat64 defaults.defaultDuration
      let capacity ← r.defaulted "capacity" nat64 defaults.capacity
      .ok { defaultDuration, capacity }

/-- The export group. -/
def ExportSettings.decoder : Decoder ExportSettings :=
  let defaults : ExportSettings := {}
  record
    [field "batch_size" nat64, field "max_rows" nat64, field "output_dir" string]
    fun r => do
      let batchSize ← r.defaulted "batch_size" nat64 defaults.batchSize
      let maxRows ← r.defaulted "max_rows" nat64 defaults.maxRows
      let outputDir ← r.defaulted "output_dir" string defaults.outputDir
      .ok { batchSize, maxRows, outputDir }

/-- The interface group. -/
def InterfaceSettings.decoder : Decoder InterfaceSettings :=
  let defaults : InterfaceSettings := {}
  record
    [field "enabled" bool, field "port" nat16]
    fun r => do
      let enabled ← r.defaulted "enabled" bool defaults.enabled
      let port ← r.defaulted "port" nat16 defaults.port
      .ok { enabled, port }

namespace Settings

/-- All groups. -/
def decoder : Decoder Settings :=
  record
    [field "backend" BackendSettings.decoder, field "polling" PollingSettings.decoder,
      field "runner" RunnerSettings.decoder, field "notifications" NoticeSettings.decoder,
      field "export" ExportSettings.decoder, field "dashboard" InterfaceSettings.decoder]
    fun r => do
      let backend ← r.defaulted "backend" BackendSettings.decoder {}
      let polling ← r.defaulted "polling" PollingSettings.decoder {}
      let runner ← r.defaulted "runner" RunnerSettings.decoder {}
      let notices ← r.defaulted "notifications" NoticeSettings.decoder {}
      let exports ← r.defaulted "export" ExportSettings.decoder {}
      let interface ← r.defaulted "dashboard" InterfaceSettings.decoder {}
      .ok { backend, polling, runner, notices, exports, interface }

/-- The settings as a JSON value. -/
def toJson (s : Settings) : Json :=
  .ofMembers [
    ("backend", .ofMembers [("base_url", .string s.backend.baseUrl),
      ("retries", .nat s.backend.retries), ("retry_delay_ms", .nat s.backend.retryDelay)]),
    ("polling", .ofMembers [("job_running_interval_ms", .nat s.polling.jobRunning),
      ("job_idle_interval_ms", .nat s.polling.jobIdle),
      ("health_interval_ms", .nat s.polling.health)]),
    ("runner", .ofMembers [("settle_delay_ms", .nat s.runner.settleDelay),
      ("poll_interval_ms", .nat s.runner.pollInterval)]),
    ("notifications", .ofMembers [("default_duration_ms", .nat s.notices.defaultDuration),
      ("capacity", .nat s.notices.capacity)]),
    ("export", .ofMembers [("batch_size", .nat s.exports.batchSize),
      ("max_rows", .nat s.exports.maxRows), ("output_dir", .string s.exports.outputDir)]),
    ("dashboard", .ofMembers [("enabled", .bool s.interface.enabled),
      ("port", .nat s.interface.port)])]

/-- The settings of a text. -/
def ofText (text : String) : Except Fault Settings :=
  match decoder.read text with
  | .ok s => .ok s
  | .error _ => .error .unreadable

/-- What to say of a file that could not be read. -/
def unreadableFile (path reason : String) : Fault :=
  .settings ("Failed to read config file " ++ Text.quoted path ++ ": " ++ reason)

/-- Settings that can be used, and the fault of those that cannot. -/
def checked (s : Settings) : Except Fault Settings :=
  match s.complaint with
  | none => .ok s
  | some reason => .error (.settings reason)

/-- The settings of a file: its text, or the reason why there is none. Settings that
cannot be used are refused. -/
def ofFile (path : String) (content : Except String String) : Except Fault Settings :=
  match content with
  | .ok text => do checked (← ofText text)
  | .error reason => .error (unreadableFile path reason)

end Settings

end Watchdesk
