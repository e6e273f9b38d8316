namespace RobotBus.Text

/-- No other character of Unicode counts as a blank. -/
def isBlank (c : Char) : Bool := c = ' ' || c = '\t' || c = '\n' || c = '\r'

end RobotBus.Text
