import TranscodeConsole.Log
import TranscodeConsole.Settings

/-!
The configuration of the console, and the settings that follow from it.
-/
namespace TranscodeConsole

structure Config where
  baseUrl : String := ClientSettings.baseUrl {}
  connectTimeout : Nat := ClientSettings.connectTimeout {}
  requestTimeout : Nat := ClientSettings.requestTimeout {}
  pageLimit : Nat := PagingSettings.pageLimit {}
  pace : Nat := PagingSettings.pace {}
  jobInterval : Nat := PollSettings.jobInterval {}
  countersInterval : Nat := PollSettings.countersInterval {}
  queueStatsInterval : Nat := PollSettings.queueStatsInterval {}
  jobSummaryInterval : Nat := PollSettings.jobSummaryInterval {}
  log : Log.Destination := .terminal
  /-- The file that was read; none for a configuration that no file gave. -/
  source : Option String := none
  deriving DecidableEq, Repr

namespace Config

def clientSettings (c : Config) : ClientSettings :=
  ⟨c.baseUrl, c.connectTimeout, c.requestTimeout⟩

def pagingSettings (c : Config) : PagingSettings := ⟨max c.pageLimit 1, c.pace⟩

def pollSettings (c : Config) : PollSettings :=
  ⟨max c.jobInterval 1, max c.countersInterval 1, max c.queueStatsInterval 1,
    max c.jobSummaryInterval 1⟩

end Config
end TranscodeConsole
