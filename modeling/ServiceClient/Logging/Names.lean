namespace ServiceClient.Logging

def levels : List (String × Nat) :=
  [("CRITICAL", 50), ("FATAL", 50), ("ERROR", 40), ("WARNING", 30), ("WARN", 30), ("INFO", 20),
    ("DEBUG", 10), ("NOTSET", 0)]

def levelNumber? (name : String) : Option Nat := levels.lookup name

def switches : List String :=
  ["logMultiprocessing", "logProcesses", "logThreads", "raiseExceptions"]

def startName : String := "_startTime"

def layoutName : String := "BASIC_FORMAT"

def stylesName : String := "_STYLES"

def partNames : List String :=
  ["BASIC_FORMAT", "BufferingFormatter", "FileHandler", "Filter", "Filterer", "Formatter",
    "GenericAlias", "Handler", "LogRecord", "Logger", "LoggerAdapter", "Manager", "NullHandler",
    "PercentStyle", "PlaceHolder", "RootLogger", "StrFormatStyle", "StreamHandler",
    "StringTemplateStyle", "Template", "_STYLES", "_StderrHandler", "__all__", "__annotations__",
    "__author__", "__builtins__", "__cached__", "__class__", "__date__", "__delattr__",
    "__dict__", "__dir__", "__doc__", "__eq__", "__file__", "__format__", "__ge__",
    "__getattribute__", "__getstate__", "__gt__", "__hash__", "__init__", "__init_subclass__",
    "__le__", "__loader__", "__lt__", "__name__", "__ne__", "__new__", "__package__", "__path__",
    "__reduce__", "__reduce_ex__", "__repr__", "__setattr__", "__sizeof__", "__spec__",
    "__status__", "__str__", "__subclasshook__", "__version__", "_acquireLock", "_addHandlerRef",
    "_after_at_fork_child_reinit_locks", "_at_fork_reinit_lock_weakset", "_checkLevel",
    "_defaultFormatter", "_defaultLastResort", "_handlerList", "_handlers", "_is_internal_frame",
    "_levelToName", "_lock", "_logRecordFactory", "_loggerClass", "_nameToLevel",
    "_register_at_fork_reinit_lock", "_releaseLock", "_removeHandlerRef", "_showwarning",
    "_srcfile", "_str_formatter", "_warnings_showwarning", "addLevelName", "atexit",
    "basicConfig", "captureWarnings", "collections", "config", "critical", "currentframe",
    "debug", "disable", "error", "exception", "fatal", "getLevelName", "getLevelNamesMapping",
    "getLogRecordFactory", "getLogger", "getLoggerClass", "handlers", "info", "io", "lastResort",
    "log", "makeLogRecord", "os", "re", "root", "setLogRecordFactory", "setLoggerClass",
    "shutdown", "sys", "threading", "time", "traceback", "warn", "warning", "warnings", "weakref"]

end ServiceClient.Logging
