import RgbClock.Lib.Run
import RgbClock.Lib.Decimal
import RgbClock.Lib.Slots
import RgbClock.Lib.Bytes
import RgbClock.Lib.Polling
import RgbClock.Lib.Memory
import RgbClock.Lib.Iteration
import RgbClock.Lib.Calendar
import RgbClock.Lib.Registers
import RgbClock.Lib.Crc
import RgbClock.Bus.I2c
import RgbClock.Bus.Statistics
import RgbClock.Bus.Expander
import RgbClock.Keys.Holds
import RgbClock.Keys.Reports
import RgbClock.Lcd.Delivery
import RgbClock.Lcd.Format
import RgbClock.Lcd.Rectangles
import RgbClock.Lcd.Controller
import RgbClock.Lcd.Drawing
import RgbClock.Lcd.Transport
import RgbClock.Mainboard.Watchdog
import RgbClock.Mainboard.Outputs
import RgbClock.Mainboard.KeyboardGuard
import RgbClock.Dab.Replies
import RgbClock.Dab.Si4684
import RgbClock.Dab.Firmware
import RgbClock.Dab.Flash
import RgbClock.Dab.Checksum
import RgbClock.Dab.Lists
import RgbClock.Dab.Packets
import RgbClock.Dab.Startup
import RgbClock.Dab.Flashing
import RgbClock.Dab.Receiver
import RgbClock.Dab.ReceiverCalls
import RgbClock.Alarms.Announcement
import RgbClock.Alarms.Loading
import RgbClock.Alarms.Countdown
import RgbClock.Alarms.Nearest
import RgbClock.Devices.Radio
import RgbClock.Devices.Light
import RgbClock.Devices.FadeOut
import RgbClock.Devices.Joins
import RgbClock.Devices.Volume
import RgbClock.Devices.Amplifier
import RgbClock.Devices.Arithmetic
import RgbClock.Devices.Restore
import RgbClock.Devices.Waits
import RgbClock.Devices.Rds
import RgbClock.Devices.Backlight
import RgbClock.Devices.Rtc
import RgbClock.Devices.RtcThread
import RgbClock.Devices.Color
import RgbClock.Devices.Ramp
import RgbClock.Devices.Luminance
import RgbClock.Devices.Pwm
import RgbClock.Units.Power
import RgbClock.Units.Editor
import RgbClock.Units.Selection
import RgbClock.Units.EditScreen
import RgbClock.Units.Scroll
import RgbClock.Units.ClockFace
import RgbClock.Units.UnitNames
import RgbClock.Units.Session
import RgbClock.Units.Dispatch
import RgbClock.Units.Modes
import RgbClock.House.System
import RgbClock.House.Editing
import RgbClock.House.Teardown
import RgbClock.House.Requests
import RgbClock.House.Missed
import RgbClock.House.Restart
import RgbClock.House.Sweep
import RgbClock.House.Config
import RgbClock.House.HotPlug
import RgbClock.House.Screen
