/-!
Settings of the console. Durations are in milliseconds.
-/
namespace TranscodeConsole

structure ClientSettings where
  baseUrl : String := "http://localhost:9000/api/"
  connectTimeout : Nat := 10000
  requestTimeout : Nat := 30000
  deriving DecidableEq, Repr

structure PagingSettings where
  pageLimit : Nat := 30
  /-- The pause between two records. -/
  pace : Nat := 25
  deriving DecidableEq, Repr

structure PollSettings where
  jobInterval : Nat := 1000
  countersInterval : Nat := 3000
  queueStatsInterval : Nat := 3000
  jobSummaryInterval : Nat := 1000
  deriving DecidableEq, Repr

end TranscodeConsole
