import BroadcastHub.Server.Exit

/-!
# Counters

What a server counts, and the lines in which the counters are published.  A
counter is published from the first time on that something has been counted.
-/

namespace BroadcastHub.Server

structure Counters where
  /-- Sessions that were opened. -/
  opened : Nat := 0
  /-- Sessions that are open. -/
  active : Nat := 0
  /-- Sessions that ended, by the kind of end. -/
  ended : Reason → Nat := fun _ => 0
  /-- Sessions whose length was recorded. -/
  timed : Nat := 0
  /-- Requests for a session that were refused because no slot was left. -/
  refused : Nat := 0
  /-- Broadcast messages that reached a recipient. -/
  delivered : Nat := 0
  /-- Broadcast messages that did not. -/
  undelivered : Nat := 0
  /-- Heartbeat replies that were written. -/
  ponged : Nat := 0
  /-- Heartbeat requests that were left to a reply already under way. -/
  coalesced : Nat := 0
deriving Inhabited

namespace Counters

def noteOpened (counters : Counters) : Counters :=
  { counters with opened := counters.opened + 1, active := counters.active + 1 }

def noteEnded (counters : Counters) (reason : Reason) : Counters :=
  { counters with
    active := counters.active - 1
    ended := fun other => if other = reason then counters.ended other + 1
      else counters.ended other
    timed := counters.timed + 1 }

/-- A line that tells the type of a metric, and its values. -/
def family (name kind : String) (values : List (String × Nat)) :
    List String × List String :=
  if values.isEmpty then ([], [])
  else (["# TYPE " ++ name ++ " " ++ kind],
    values.map fun (label, value) => label ++ " " ++ Nat.repr value)

/-- A single value that is published if it is not zero. -/
def single (name : String) (value : Nat) : List String × List String :=
  family name "counter" (if value = 0 then [] else [(name, value)])

def endLabel (reason : Reason) : String :=
  "ws_disconnections_total\x7breason=\"" ++ reason.name ++ "\"\x7d"

/-- The metrics in the order of their names. -/
def families (counters : Counters) : List (List String × List String) :=
  [single "broadcast_deliveries_total" counters.delivered,
    single "broadcast_failures_total" counters.undelivered,
    single "pings_coalesced_total" counters.coalesced,
    single "pongs_sent_total" counters.ponged,
    family "ws_connection_duration_seconds" "summary"
      (if counters.timed = 0 then []
        else [("ws_connection_duration_seconds_count", counters.timed)]),
    family "ws_connections_active" "gauge"
      (if counters.opened =
        0 then [] else [("ws_connections_active", counters.active)]),
    single "ws_connections_total" counters.opened,
    family "ws_disconnections_total" "counter"
      ((Reason.all.filter fun reason => counters.ended reason ≠ 0).map
        fun reason =>
        (endLabel reason, counters.ended reason)),
    single "ws_upgrades_refused_total" counters.refused]

/-- The published lines in ascending order; those that tell a type come
first. -/
def exposition (counters : Counters) : List String :=
  counters.families.flatMap Prod.fst ++ counters.families.flatMap Prod.snd

end Counters

end BroadcastHub.Server
