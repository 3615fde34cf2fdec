import AdcFeed.CommandLine.Grammar
import AdcFeed.Config
import AdcFeed.Delay
import AdcFeed.Net.AddressReader
import AdcFeed.Text.Integer

/-!
The command lines of the two programs.
-/

namespace AdcFeed

/-- Reads a port. -/
def readPort (text : String) : Except String UInt16 :=
  match IntegerRange.signed64.read text.toList with
  | .error e => .error e.message
  | .ok n =>
    if 0 ≤ n ∧ n ≤ 65535 then .ok (UInt16.ofNat n.toNat)
    else .error (toString n ++ " is not in 0..=65535")

/-- Reads the address of a server. -/
def readServerIp (text : String) : Except String IpAddress :=
  match IpAddress.read? text with
  | none => .error "invalid IP address syntax"
  | some ip => .ok ip

/-- Reads a count or a seed. -/
def readWord64 (text : String) : Except String Nat :=
  match IntegerRange.unsigned64.read text.toList with
  | .error e => .error e.message
  | .ok n => .ok n.toNat

/-- What has been gathered for the sending side. -/
structure SenderDraft where
  port : Option UInt16 := none
  ip : Option IpAddress := none
  delay : Option Duration := none
  count : Option Nat := none
  seed : Option Nat := none

/-- The configuration, once every positional argument is there. -/
def SenderDraft.config (d : SenderDraft) : Except UsageError SenderConfig :=
  match d.port, d.ip, d.delay with
  | some port, some ip, some delay =>
    .ok { server := { ip, port }, delay, limit := d.count, seed := d.seed.map UInt64.ofNat }
  | port, ip, delay =>
    .error (.missingArguments
      ((if port.isNone then ["<PORT>"] else []) ++ (if ip.isNone then ["<SERVER_IP>"] else [])
        ++ (if delay.isNone then ["<DELAY_MS>"] else [])))

/-- A text of several lines where the help text describes an option: every line but the first
starts below the first. -/
def describedLines (text : String) : String :=
  String.ofList (text.toList.flatMap fun c =>
    if c = '\n' then '\n' :: List.replicate 23 ' ' else [c])

/-- The value of a variable as the help text shows it, empty if it is not set. -/
def shownVariable (env : Environment) (name : String) : String :=
  "[env: " ++ name ++ "=" ++ describedLines (((env.lookup name).map lossyText).getD "") ++ "]"

/-- The help text of the sending side, for a terminal. -/
def senderHelp (env : Environment) : String :=
  "Streams synthetic ADC readings to a TCP server\n\n"
    ++ "Usage: adc-client [OPTIONS] <PORT> <SERVER_IP> <DELAY_MS>\n\n"
    ++ "Arguments:\n"
    ++ "  <PORT>       Server TCP port\n"
    ++ "  <SERVER_IP>  Server IPv4 or IPv6 address\n"
    ++ "  <DELAY_MS>   Pause between readings, in milliseconds (fractions allowed)\n\n"
    ++ "Options:\n"
    ++ "      " ++ emphasize "--count"
    ++ " <COUNT>  Stop after this many readings instead of streaming forever "
    ++ shownVariable env "ADC_COUNT" ++ "\n"
    ++ "      " ++ emphasize "--seed"
    ++ " <SEED>    Seed the sampler for a reproducible sequence "
    ++ shownVariable env "ADC_SEED" ++ "\n"
    ++ "  " ++ emphasize "-h" ++ ", " ++ emphasize "--help" ++ "           Print help\n"
    ++ "  " ++ emphasize "-V" ++ ", " ++ emphasize "--version" ++ "        Print version\n"

/-- The command line of the sending side. -/
def senderGrammar : CommandGrammar SenderDraft where
  positionals := [
    { label := "<PORT>", store := fun d text => (readPort text).map ({ d with port := · }) },
    { label := "<SERVER_IP>"
      store := fun d text => (readServerIp text).map ({ d with ip := · }) },
    { label := "<DELAY_MS>"
      store := fun d text =>
        ((Duration.readMillis text).mapError DelayError.message).map ({ d with delay := · }) }]
  options := [
    { label := "--count <COUNT>", name := "count", envName := "ADC_COUNT"
      store := fun d text => (readWord64 text).map ({ d with count := · }) },
    { label := "--seed <SEED>", name := "seed", envName := "ADC_SEED"
      store := fun d text => (readWord64 text).map ({ d with seed := · }) }]
  help := senderHelp
  version := "adc-client 0.1.0\n"

/-- Reads the command line of the sending side. -/
def SenderConfig.ofArguments (env : Environment) (args : List Bytes) :
    Except UsageError SenderConfig :=
  (senderGrammar.read env {} args).bind SenderDraft.config

/-- The help text of the receiving side. -/
def receiverHelp : String :=
  "Accepts one ADC stream client and echoes what it sends\n\n"
    ++ "Usage: adc-server <PORT>\n\n"
    ++ "Arguments:\n"
    ++ "  <PORT>  TCP port to listen on (all IPv4 interfaces)\n\n"
    ++ "Options:\n"
    ++ "  -h, --help     Print help\n"
    ++ "  -V, --version  Print version\n"

/-- The command line of the receiving side; what is gathered is the port. -/
def receiverGrammar : CommandGrammar (Option UInt16) where
  positionals := [{ label := "<PORT>", store := fun _ text => (readPort text).map some }]
  help := fun _ => receiverHelp
  version := "adc-server 0.1.0\n"

/-- Reads the command line of the receiving side. -/
def ReceiverConfig.ofArguments (args : List Bytes) : Except UsageError ReceiverConfig := do
  match ← receiverGrammar.read [] none args with
  | some port => return .onPort port
  | none => throw (.missingArguments ["<PORT>"])

end AdcFeed
