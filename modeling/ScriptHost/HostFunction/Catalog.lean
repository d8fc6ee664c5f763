import ScriptHost.Exposure

/-!
# The catalog of host functions

What every script can use whatever events there are: timers, custom events, arrays and the log.
-/

namespace ScriptHost

/-- The callback that a timer runs. -/
def timerCallback : String := "void TimerCallback()"

/-- The callback of custom events from this side. -/
def localEventCallback : String := "void LocalEventCallback(array<any>@ args)"

/-- The callback of custom events from remote players. -/
def remoteEventCallback : String := "void RemoteEventCallback(IPlayer@ player, array<any>@ args)"

/-- The steps that expose the catalog, in order. -/
def hostCatalog : List ExposureStep := [
  .callbackType timerCallback,
  .function "uint setTimeout(TimerCallback@ callback, uint timeout)"
    (.setTimer (some 1) true) .functions,
  .function "uint setInterval(TimerCallback@ callback, uint timeout)"
    (.setTimer (some 1) false) .functions,
  .function "uint nextTick(TimerCallback@ callback)" (.setTimer none true) .functions,
  .function "void clearTimer(uint id)" .clearTimer .functions,
  .function "void clearTimeout(uint id)" .clearTimer .functions,
  .function "void clearInterval(uint id)" .clearTimer .functions,
  .callbackType localEventCallback,
  .callbackType remoteEventCallback,
  .function "void on(const string &in name, LocalEventCallback@ callback)"
    (.onCustom .here) .functions,
  .function "void onClient(const string &in name, RemoteEventCallback@ callback)"
    (.onCustom .remote) .functions,
  .function "array<string>@ createStringArray(uint length)" (.createArray .string) .functions,
  .function "array<int>@ createIntArray(uint length)" (.createArray .int) .functions,
  .function "array<uint>@ createUIntArray(uint length)" (.createArray .uint) .functions,
  .function "array<any>@ createAnyArray(uint length)" (.createArray .any) .functions,
  .function "void log(const string &in message)" .log .functions]

end ScriptHost
