/-!
# The log

* `Level`: how much an entry matters, with the number by which levels are compared.
* `Component`: the part of the program that made an entry.
* `Log`: the entries made so far, the latest one last.
-/

namespace AxisMixer

inductive Level where
  | debug | info | warning | error | critical
  deriving DecidableEq, Repr

namespace Level

/-- All levels, from the least to the greatest. -/
def all : List Level := [debug, info, warning, error, critical]

def number : Level → Int
  | debug => 10
  | info => 20
  | warning => 30
  | error => 40
  | critical => 50

def name : Level → String
  | debug => "DEBUG"
  | info => "INFO"
  | warning => "WARNING"
  | error => "ERROR"
  | critical => "CRITICAL"

def ofNumber? (n : Int) : Option Level := all.find? fun l => l.number == n

/-- Lower-case letters become capital ones, and so does the letter i without its dot. -/
def capital (c : Char) : Char := if c = 'ı' then 'I' else c.toUpper

/-- The level with this name, in letters of either case. -/
def ofText? (s : String) : Option Level := all.find? fun l => l.name == s.map capital

end Level

inductive Component where
  | program | configuration | graph | engine | discovery | listener | physicalDevice | virtualDevice
  deriving DecidableEq, Repr

/-- The name of the logger that an entry goes to. -/
def Component.loggerName : Component → String
  | program => "pimp_my_axis.app"
  | configuration => "pimp_my_axis.config.loader"
  | graph => "pimp_my_axis.domain.graph"
  | engine => "pimp_my_axis.domain.engine"
  | discovery => "pimp_my_axis.input.discovery"
  | listener => "pimp_my_axis.input.listener"
  | physicalDevice => "pimp_my_axis.input.real_device"
  | virtualDevice => "pimp_my_axis.output.virt_device"

structure LogEntry where
  level : Level
  component : Component
  message : String
  deriving DecidableEq, Repr

/-- The entries made, the latest one last. -/
abbrev Log := Array LogEntry

end AxisMixer
