import MediaImport.Settings.Key
import MediaImport.Settings.Purpose

/-!
# Failures

Everything that can go wrong between an application and its import scripts, by
cause.  The wording is in `Failure.message`, built from the wording of the
causes.

A script that leaves an object without a type is not a failure: the object is
then absent.
-/

namespace MediaImport

/-- Why a script context could not be set up or found. -/
inductive SetupFailure where
  | unsupportedCharset (label : String) (key : SettingKey)
  | contextExists (name : String)
  | contextMissing (name : String)
  /-- No interpreter could be made, for a reason in its own words. -/
  | noInterpreter (reason : String)
  /-- The names of the application could not be defined in an interpreter. -/
  | noNames (reason : String)
  deriving DecidableEq

def SetupFailure.message : SetupFailure → String
  | unsupportedCharset label key => "unsupported charset '" ++ label ++ "' for " ++ key.name
  | contextExists name => "interpreter context '" ++ name ++ "' already exists"
  | contextMissing name => "no interpreter context named '" ++ name ++ "'"
  | noInterpreter reason => "could not create Lua VM: " ++ reason
  | noNames reason => "failed to set up globals: " ++ reason

/-- Bytes that are not text in the expected character set, with the length of
the beginning that is. -/
structure ConversionFailure where
  offset : Nat
  deriving DecidableEq

def ConversionFailure.message (failure : ConversionFailure) : String :=
  "charset conversion failed: invalid UTF-8 sequence at byte " ++ toString failure.offset

/-- Why a script was not loaded. -/
inductive LoadFailure where
  /-- The source of scripts has nothing to read, for a reason in its own words. -/
  | unreadable (reason : String)
  | undecodable (failure : ConversionFailure)
  | empty
  | malformed
  deriving DecidableEq

def LoadFailure.message : LoadFailure → String
  | unreadable reason => reason
  | undecodable failure => "failed to convert import script: " ++ failure.message
  | empty => "empty script"
  | malformed => "syntax error"

/-- Something that went wrong between an application and a script. -/
inductive Failure where
  | setup (cause : SetupFailure)
  | load (path : String) (cause : LoadFailure)
  /-- There is no program to run. -/
  | nothingLoaded
  /-- A running program stopped with an error, described by a text. -/
  | execution (text : String)
  | conversion (cause : ConversionFailure)
  /-- An object was added under no container. -/
  | emptyContainerChain
  | invalidObjectType (bits : Int32)
  /-- A configuration or object file cannot be used. -/
  | configuration
  /-- An error of the interpreter itself, described by a text. -/
  | script (text : String)
  deriving DecidableEq

namespace Failure

def message : Failure → String
  | setup cause => "scripting: could not initialise script context: " ++ cause.message
  | load path cause => "failed to load script " ++ path ++ ": " ++ cause.message
  | nothingLoaded => "failed to execute script: no script loaded"
  | execution text => "failed to execute script: " ++ text
  | conversion cause => cause.message
  | emptyContainerChain => "content manager rejected object: empty container chain"
  | invalidObjectType bits => "invalid object type " ++ toString bits
  | configuration => "configuration error"
  | script text => text

end Failure

end MediaImport
