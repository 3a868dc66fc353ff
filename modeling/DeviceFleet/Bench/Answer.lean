import DeviceFleet.Bench.Protocol
import DeviceFleet.Bench.Frames
import DeviceFleet.Bench.Canonical
import DeviceFleet.Bench.Calendar
import DeviceFleet.Bench.Progress
import DeviceFleet.Bench.Config
import DeviceFleet.Bench.Jobs
import DeviceFleet.Bench.Operations
import DeviceFleet.Bench.Agent
import DeviceFleet.Bench.Cache
import DeviceFleet.Bench.Events
import DeviceFleet.Bench.Correlator
import DeviceFleet.Bench.Engine
import DeviceFleet.Bench.Wire

/-!
# The bench: commands by name

Each command names what it asks for in `op`. One-shot commands answer at once; a session
command builds a state and runs its steps one by one.
-/

namespace DeviceFleet.Bench

def answer? (op : String) (now : Int) (input : Json) : Option Answer :=
  match op with
  | "method_normalize" => some (.ok (methodReport input))
  | "response_code" => some (.ok (responseCodeReport input))
  | "topic_parse" => some (.ok (topicReport input))
  | "channel_topics" => some (.ok (channelTopicsReport input))
  | "envelope_class" => some (.ok (envelopeClassReport input))
  | "frame_encode" => some (.ok (frameEncodeReport input))
  | "frame_decode" => some (.ok (frameDecodeReport input))
  | "frame_read" => some (.ok (frameReadReport input))
  | "translate_request" => some (.ok (convertRequestReport input))
  | "translate_response" => some (.ok (convertResponseReport now input))
  | "translate_correlation" => some (.ok (convertCorrelationReport input))
  | "translate_unregistered" => some (.ok (unregisteredReport input))
  | "week_of_year" => some (weekReport input)
  | "index_name" => some (indexNameReport input)
  | "progress" => some (progressReport input)
  | "valid_transition" => some (transitionReport input)
  | "resume_step" => some (resumeReport input)
  | "server_config" => some (serverConfigReport input)
  | "dispatcher_timeout" => some (.ok (dispatcherTimeoutReport input))
  | "job_error" => some (.ok (jobErrorReport input))
  | "store_error" => some (.ok (storeErrorReport input))
  | "start_options" => some (.ok (startOptionsReport input))
  | "template_build" => some (.ok (templateReport now input))
  | "parse_line" => some (.ok (parseLineReport input))
  | "operation_model" => some (.ok (operationReport now input))
  | _ => none

def session? (op : String) : Option Session :=
  match op with
  | "agent" => some agentSession
  | "cache" => some cacheSession
  | "event_store" => some eventStoreSession
  | "recorder" => some recorderSession
  | "correlator" => some correlatorSession
  | "engine" => some engineSession
  | "wire" => some wireSession
  | _ => none

end DeviceFleet.Bench
