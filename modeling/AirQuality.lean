import AirQuality.Foundation.Decimal
import AirQuality.Foundation.Framing
import AirQuality.Network.Readiness
import AirQuality.Hvac.Driver
import AirQuality.Hvac.Address
import AirQuality.Hvac.Frame
import AirQuality.Hvac.Checksum
import AirQuality.Hvac.Detection
import AirQuality.Hvac.SingleWord
import AirQuality.Uid.Serial
import AirQuality.Ha.Sensor
import AirQuality.Station.Main
import AirQuality.Station.Readings
import AirQuality.Mqtt.Draining
import AirQuality.Mqtt.Client
import AirQuality.Mqtt.Connection
import AirQuality.Mqtt.Endless
import AirQuality.Mqtt.Routing
import AirQuality.Mqtt.Payload
import AirQuality.Mqtt.Phase
import AirQuality.Mqtt.Consistency
import AirQuality.Mqtt.Keepalive
import AirQuality.Mqtt.Lookup
import AirQuality.Mqtt.PollSet
import AirQuality.Mqtt.Backoff
import AirQuality.Mqtt.Reader
import AirQuality.Mqtt.Undisturbed
import AirQuality.Foundation.Broker
import AirQuality.Foundation.CyclicCode
import AirQuality.Mqtt.Session
import AirQuality.Station.Watchdog
import AirQuality.Station.Reset
import AirQuality.Mqtt.Sending
import AirQuality.Mqtt.Subscribing
import AirQuality.Station.World
import AirQuality.Ha.Topics
import AirQuality.Ha.Announcement
import AirQuality.Ha.Truncation
import AirQuality.Mqtt.Retained
import AirQuality.Station.Availability
import AirQuality.Mqtt.Sound
import AirQuality.Mqtt.Delivery
import AirQuality.Station.Messages
import AirQuality.Station.Catalogue
import AirQuality.Mqtt.Sockets
import AirQuality.Mqtt.Feeding
import AirQuality.Mqtt.Waiting
import AirQuality.Station.Progress
import AirQuality.Station.Alarm
import AirQuality.Station.Schedule
import AirQuality.Station.Isolation
import AirQuality.TempHum24.Driver
import AirQuality.TempHum24.Reads
import AirQuality.Foundation.Precision
import AirQuality.Station.Boot
import AirQuality.Station.Conversation
import AirQuality.Station.Measuring
import AirQuality.Station.Values
import AirQuality.Station.Identified
import AirQuality.Mqtt.Inbound
import AirQuality.Station.Addressing
import AirQuality.Station.Startup
import AirQuality.Station.Telemetry
